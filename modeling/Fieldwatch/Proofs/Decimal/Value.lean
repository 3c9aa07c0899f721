import Mathlib.Algebra.Order.Field.Basic
import Mathlib.Data.Rat.Cast.Order
import Mathlib.Tactic.FieldSimp
import Mathlib.Tactic.Linarith
import Mathlib.Tactic.Positivity
import Mathlib.Tactic.Ring
import Fieldwatch.Decimal.Double

/-!
# Values of doubles

The rational number that a finite double stands for. Doubles are in the order of their values, and a
whole number below `2 ^ 53` is the value of the double nearest to it.
-/
namespace Fieldwatch.Double

variable {x y : Double}

/-- The value of a finite double without its sign. -/
def size (x : Double) : ℚ := x.significand * 2 ^ x.scale

/-- The value of a finite double. -/
def toRat (x : Double) : ℚ := if x.isNegative then -x.size else x.size

/-! ## Order -/

/-- How many times the least positive double goes into a double, whatever its sign. -/
def units (x : Double) : Nat := x.significand * 2 ^ (max x.exponentField 1 - 1)

/-- The least positive value of a double. -/
def unit : ℚ := 2 ^ (-1074 : ℤ)

theorem unit_pos : 0 < unit := zpow_pos two_pos _

theorem size_eq_units (x : Double) : x.size = x.units * unit := by
  have split : x.scale = (max x.exponentField 1 - 1 : Nat) + (-1074 : ℤ) := by
    unfold scale
    omega
  rw [size, split, zpow_add₀ two_ne_zero, zpow_natCast, units, unit]
  rw [Nat.cast_mul, Nat.cast_pow, Nat.cast_ofNat, mul_assoc]

theorem magnitude_eq (x : Double) :
    x.magnitude = 2 ^ 52 * x.exponentField + x.fractionField :=
  (Nat.div_add_mod x.magnitude (2 ^ 52)).symm

theorem fractionField_lt (x : Double) : x.fractionField < 2 ^ 52 :=
  Nat.mod_lt _ (by norm_num)

theorem significand_lt (x : Double) : x.significand < 2 ^ 53 := by
  have bound := x.fractionField_lt
  simp only [significand, Nat.pow_eq]
  split <;> omega

theorem units_lt (less : x.magnitude < y.magnitude) : x.units < y.units := by
  have belowX := x.fractionField_lt
  have belowY := y.fractionField_lt
  rw [magnitude_eq, magnitude_eq] at less
  rcases Nat.lt_or_ge x.exponentField y.exponentField with lower | notLower
  · -- a higher exponent makes up for any fraction
    have positive : y.exponentField ≠ 0 := by omega
    have top : 2 ^ 52 * 2 ^ (y.exponentField - 1) ≤ y.units := by
      have power : max y.exponentField 1 - 1 = y.exponentField - 1 := by omega
      simp only [units, significand, positive, if_false, power, Nat.pow_eq]
      exact Nat.mul_le_mul_right _ (by omega)
    refine Nat.lt_of_lt_of_le ?_ top
    by_cases zero : x.exponentField = 0
    · have one : 1 ≤ 2 ^ (y.exponentField - 1) := Nat.one_le_two_pow
      simp only [units, significand, zero, if_true, Nat.zero_max, Nat.sub_self, pow_zero,
        Nat.mul_one]
      calc x.fractionField < 2 ^ 52 * 1 := by omega
        _ ≤ 2 ^ 52 * 2 ^ (y.exponentField - 1) := Nat.mul_le_mul_left _ one
    · have power : max x.exponentField 1 - 1 = x.exponentField - 1 := by omega
      have step : 2 * 2 ^ (x.exponentField - 1) ≤ 2 ^ (y.exponentField - 1) := by
        rw [← pow_succ']
        exact Nat.pow_le_pow_right (by norm_num) (by omega)
      calc x.units = x.significand * 2 ^ (x.exponentField - 1) := by rw [units, power]
        _ < 2 ^ 53 * 2 ^ (x.exponentField - 1) :=
          Nat.mul_lt_mul_of_pos_right x.significand_lt (by positivity)
        _ = 2 ^ 52 * (2 * 2 ^ (x.exponentField - 1)) := by ring
        _ ≤ 2 ^ 52 * 2 ^ (y.exponentField - 1) := Nat.mul_le_mul_left _ step
  · have same : x.exponentField = y.exponentField := by omega
    have fractions : x.fractionField < y.fractionField := by omega
    have significands : x.significand < y.significand := by
      simp only [significand, same]
      split <;> omega
    rw [units, units, same]
    exact Nat.mul_lt_mul_of_pos_right significands (by positivity)

theorem units_lt_iff : x.units < y.units ↔ x.magnitude < y.magnitude := by
  refine ⟨fun less => ?_, units_lt⟩
  by_contra notLess
  rcases Nat.lt_or_ge y.magnitude x.magnitude with more | notMore
  · exact absurd (units_lt more) (by omega)
  · have same : x.magnitude = y.magnitude := by omega
    have alike : x.units = y.units := by
      unfold units significand exponentField fractionField
      rw [same]
    omega

theorem units_eq_zero_iff : x.units = 0 ↔ x.magnitude = 0 := by
  have less := units_lt_iff (x := ⟨0⟩) (y := x)
  have nothing : units ⟨0⟩ = 0 := by decide
  have none : magnitude ⟨0⟩ = 0 := by decide
  omega

theorem size_lt_iff : x.size < y.size ↔ x.magnitude < y.magnitude := by
  rw [size_eq_units, size_eq_units, mul_lt_mul_iff_left₀ unit_pos, Nat.cast_lt, units_lt_iff]

theorem size_pos_iff : 0 < x.size ↔ x.magnitude ≠ 0 := by
  rw [size_eq_units, mul_pos_iff_of_pos_right unit_pos, Nat.cast_pos, Nat.pos_iff_ne_zero, Ne,
    units_eq_zero_iff]

theorem size_nonneg (x : Double) : 0 ≤ x.size := by
  rw [size_eq_units]
  exact mul_nonneg (Nat.cast_nonneg _) unit_pos.le

/-- Values are in the order of the ranks. -/
theorem toRat_lt_iff : x.toRat < y.toRat ↔ x.rank < y.rank := by
  have less := size_lt_iff (x := x) (y := y)
  have more := size_lt_iff (x := y) (y := x)
  have posX := size_pos_iff (x := x)
  have posY := size_pos_iff (x := y)
  have nonnegX := x.size_nonneg
  have nonnegY := y.size_nonneg
  unfold toRat rank
  cases x.isNegative <;> cases y.isNegative <;> simp only [if_true, Bool.false_eq_true, if_false]
  · rw [less]
    omega
  · constructor
    · intro below
      linarith
    · intro below
      omega
  · -- a negative double is below one that is not, unless both are zero
    by_cases zero : x.magnitude = 0 ∧ y.magnitude = 0
    · have nothingX : ¬ 0 < x.size := fun some => posX.mp some zero.1
      have nothingY : ¬ 0 < y.size := fun some => posY.mp some zero.2
      constructor
      · intro below
        linarith
      · intro below
        omega
    · have some : 0 < x.size ∨ 0 < y.size := by
        rw [posX, posY]
        omega
      constructor
      · intro below
        omega
      · intro below
        rcases some with big | big <;> linarith
  · rw [neg_lt_neg_iff, more]
    omega

theorem isNaN_of_isFinite (finite : x.isFinite = true) : x.isNaN = false := by
  simp only [isFinite, isNaN, decide_eq_true_eq, decide_eq_false_iff_not] at *
  omega

/-- A finite double is below another exactly when its value is. -/
theorem lt_iff (finite : x.isFinite = true) (finiteToo : y.isFinite = true) :
    x.lt y = true ↔ x.toRat < y.toRat := by
  simp [lt, isNaN_of_isFinite finite, isNaN_of_isFinite finiteToo, toRat_lt_iff]

/-! ## Whole numbers -/

section Signs

variable {negative : Bool} {magnitude : Nat} (small : magnitude < 2 ^ 63)
include small

theorem isNegative_ofSign : (ofSign negative magnitude).isNegative = negative := by
  cases negative <;> simp [ofSign, isNegative] <;> omega

theorem magnitude_ofSign : (ofSign negative magnitude).magnitude = magnitude := by
  cases negative <;> simp [ofSign, Double.magnitude] <;> omega

end Signs

/-- The leading bit of a significand is counted on the exponent. -/
theorem size_of_magnitude {k m : Nat} (low : 2 ^ 52 ≤ m) (high : m < 2 ^ 53)
    (placed : x.magnitude = k * 2 ^ 52 + m) : x.size = m * 2 ^ ((k : ℤ) - 1074) := by
  have exponent : x.exponentField = k + 1 := by
    simp only [exponentField, placed, Nat.pow_eq]
    omega
  have fraction : x.fractionField = m - 2 ^ 52 := by
    simp only [fractionField, placed, Nat.pow_eq]
    omega
  have digits : x.significand = m := by
    rw [significand, exponent, fraction, if_neg k.succ_ne_zero, Nat.pow_eq]
    omega
  have power : x.scale = (k : ℤ) - 1074 := by
    simp only [scale, exponent]
    omega
  rw [size, digits, power]

theorem mul_two_pow_lt {number : Nat} (some : number ≠ 0) (small : number < 2 ^ 53) :
    number * 2 ^ (52 - number.log2) < 2 ^ 53 := by
  have few : number.log2 < 53 := (Nat.log2_lt some).mpr small
  calc number * 2 ^ (52 - number.log2)
      < 2 ^ (number.log2 + 1) * 2 ^ (52 - number.log2) :=
        Nat.mul_lt_mul_of_pos_right Nat.lt_log2_self (by positivity)
    _ = 2 ^ 53 := by
        rw [← pow_add]
        congr 1
        omega

/-- The nearest double to a whole number below `2 ^ 53` has all its digits. -/
theorem nearestMagnitude_one {number : Nat} (some : number ≠ 0) (small : number < 2 ^ 53) :
    nearestMagnitude number 1 =
      (number.log2 + 1022) * 2 ^ 52 + number * 2 ^ (52 - number.log2) := by
  have few : number.log2 < 53 := (Nat.log2_lt some).mpr small
  have full := mul_two_pow_lt some small
  have scale : roundingScale number 1 = (number.log2 : ℤ) - 52 := by
    have one : Nat.log2 1 = 0 := by decide
    simp [roundingScale, one, Nat.log2_self_le some]
    omega
  have whole (number : Nat) : divNearest number 1 = number := by simp [divNearest, Nat.mod_one]
  simp only [nearestMagnitude, some, if_false, scale, Nat.pow_eq, Nat.one_mul, infiniteMagnitude]
  split
  · next wide =>
    have top : number.log2 = 52 := by omega
    simp only [top, Nat.cast_ofNat, sub_self, Int.toNat_zero, pow_zero, whole, Nat.mul_one,
      zero_add, Nat.sub_self] at full ⊢
    omega
  · have shift : (-((number.log2 : ℤ) - 52)).toNat = 52 - number.log2 := by omega
    have place : ((number.log2 : ℤ) - 52 + 1074).toNat = number.log2 + 1022 := by omega
    rw [shift, place, whole]
    omega

theorem nearestMagnitude_lt {number : Nat} (small : number < 2 ^ 53) :
    nearestMagnitude number 1 < infiniteMagnitude := by
  by_cases nothing : number = 0
  · rw [nothing]
    decide
  · have few : number.log2 < 53 := (Nat.log2_lt nothing).mpr small
    have full := mul_two_pow_lt nothing small
    rw [nearestMagnitude_one nothing small, infiniteMagnitude, Nat.pow_eq]
    omega

variable {number : ℤ} (small : number.natAbs < 2 ^ 53)
include small

theorem magnitude_ofInt : (ofInt number).magnitude = nearestMagnitude number.natAbs 1 := by
  have below := nearestMagnitude_lt small
  refine magnitude_ofSign (below.trans ?_)
  decide

theorem isFinite_ofInt : (ofInt number).isFinite = true := by
  rw [isFinite, magnitude_ofInt small]
  exact decide_eq_true (nearestMagnitude_lt small)

theorem size_ofInt : (ofInt number).size = number.natAbs := by
  by_cases nothing : number.natAbs = 0
  · have zero : (ofInt number).magnitude = 0 := by
      rw [magnitude_ofInt small, nothing]
      rfl
    have least := (ofInt number).size_nonneg
    have notMore := mt size_pos_iff.mp (not_not.mpr zero)
    rw [nothing, Nat.cast_zero]
    linarith
  · have few : number.natAbs.log2 < 53 := (Nat.log2_lt nothing).mpr small
    have placed := (magnitude_ofInt small).trans (nearestMagnitude_one nothing small)
    have high := mul_two_pow_lt nothing small
    have low : 2 ^ 52 ≤ number.natAbs * 2 ^ (52 - number.natAbs.log2) := by
      calc 2 ^ 52 = 2 ^ number.natAbs.log2 * 2 ^ (52 - number.natAbs.log2) := by
            rw [← pow_add]
            congr 1
            omega
        _ ≤ number.natAbs * 2 ^ (52 - number.natAbs.log2) :=
          Nat.mul_le_mul_right _ (Nat.log2_self_le nothing)
    have power : ((number.natAbs.log2 + 1022 : Nat) : ℤ) - 1074 =
        -((52 - number.natAbs.log2 : Nat) : ℤ) := by omega
    rw [size_of_magnitude low high placed, power, zpow_neg, zpow_natCast]
    push_cast
    field_simp

/-- A whole number below `2 ^ 53` is the value of the double nearest to it. -/
theorem toRat_ofInt : (ofInt number).toRat = number := by
  have below := nearestMagnitude_lt small
  have sign : (ofInt number).isNegative = decide (number < 0) :=
    isNegative_ofSign (below.trans (by decide))
  rw [toRat, sign, size_ofInt small, Nat.cast_natAbs]
  by_cases negative : number < 0
  · simp [negative, abs_of_neg negative]
  · simp [negative, abs_of_nonneg (not_lt.mp negative)]

end Fieldwatch.Double
