import Mathlib.Tactic.SplitIfs
import Fieldwatch.Decimal.Notation
import Fieldwatch.Proofs.Decimal.Value

/-!
# Lengths of written decimals

The reals that round to a double leave room for a point of any grid that is fine enough: seventeen
digits always do, and so do multiples of `10 ^ -324`. So the shortest digits of a double go no
further than that. In full a double takes as many characters as those digits say, and at most 327.
-/
namespace Fieldwatch.Decimal

/-- A power as a quotient of powers, one of which is one. -/
theorem zpow_eq_div {base : ℚ} (some : base ≠ 0) (power : ℤ) :
    base ^ power = base ^ power.toNat / base ^ (-power).toNat := by
  rw [← zpow_natCast, ← zpow_natCast, ← zpow_sub₀ some]
  congr 1
  omega

theorem ten_zpow_pos (power : ℤ) : (0 : ℚ) < 10 ^ power := zpow_pos (by norm_num) power

theorem digitCount_pos (number : Nat) : 0 < Double.digitCount number :=
  Nat.length_toDigits_pos

theorem lt_ten_pow_digitCount (number : Nat) : number < 10 ^ Double.digitCount number :=
  (Nat.length_toDigits_le_iff (by decide) (digitCount_pos number)).mp le_rfl

theorem ten_pow_le_of_digitCount {number : Nat} (some : 0 < number) :
    10 ^ (Double.digitCount number - 1) ≤ number := by
  rcases Nat.eq_zero_or_pos (Double.digitCount number - 1) with one | more
  · rw [one]
    exact some
  · rw [← not_lt, ← Nat.length_toDigits_le_iff (by decide) more]
    have least := digitCount_pos number
    unfold Double.digitCount at *
    omega

/-! ## Intervals -/

namespace Interval

variable {range : Interval} {exponent : ℤ} {digits : Nat}

/-- A whole number over the denominator of an interval. -/
def share (range : Interval) (number : Nat) : ℚ := number / range.den

/-- The point of a grid at or below a share. -/
def floor (range : Interval) (exponent : ℤ) (number : Nat) : Nat :=
  number * 10 ^ (-exponent).toNat / (range.den * 10 ^ exponent.toNat)

variable (some : 0 < range.den)
include some

/-- Points of a grid are compared with shares in whole numbers. -/
theorem share_lt_iff {number : Nat} :
    range.share number < digits * 10 ^ exponent ↔
      number * 10 ^ (-exponent).toNat < digits * 10 ^ exponent.toNat * range.den := by
  have den : (0 : ℚ) < range.den := Nat.cast_pos.mpr some
  rw [share, zpow_eq_div (by norm_num), mul_div_assoc', div_lt_div_iff₀ den (by positivity)]
  exact_mod_cast Iff.rfl

theorem lt_share_iff {number : Nat} :
    digits * 10 ^ exponent < range.share number ↔
      digits * 10 ^ exponent.toNat * range.den < number * 10 ^ (-exponent).toNat := by
  have den : (0 : ℚ) < range.den := Nat.cast_pos.mpr some
  rw [share, zpow_eq_div (by norm_num), mul_div_assoc', div_lt_div_iff₀ (by positivity) den]
  exact_mod_cast Iff.rfl

theorem holds_of_between (above : range.share range.low < digits * 10 ^ exponent)
    (below : digits * 10 ^ exponent < range.share range.high) :
    range.holds digits exponent = true := by
  rw [share_lt_iff some] at above
  rw [lt_share_iff some] at below
  simp only [holds, Nat.pow_eq]
  split <;> simp [above, below, above.le, below.le]

theorem floor_le (exponent : ℤ) (number : Nat) :
    range.floor exponent number * 10 ^ exponent ≤ range.share number := by
  rw [← not_lt, share_lt_iff some, not_lt, floor, mul_assoc, mul_comm (10 ^ exponent.toNat)]
  exact Nat.div_mul_le_self _ _

theorem lt_floor_add_one (exponent : ℤ) (number : Nat) :
    range.share number < (range.floor exponent number + 1 : Nat) * 10 ^ exponent := by
  rw [share_lt_iff some, floor, mul_assoc, mul_comm (10 ^ exponent.toNat), mul_comm (_ + 1)]
  exact Nat.lt_mul_div_succ _ (by positivity)

omit some in
/-- What is found on a grid is one of the two points next to the value, and one is found if either
lies in the interval. -/
theorem onGrid?_spec (range : Interval) (tie : Tie) (exponent : ℤ) :
    (∀ d ∈ range.onGrid? tie exponent, d.exponent = exponent ∧
      (d.digits = range.floor exponent range.value ∨
        d.digits = range.floor exponent range.value + 1)) ∧
    ((range.holds (range.floor exponent range.value) exponent = true ∨
        range.holds (range.floor exponent range.value + 1) exponent = true) →
      (range.onGrid? tie exponent).isSome = true) := by
  have floor_eq : range.value * Nat.pow 10 (-exponent).toNat /
      (range.den * Nat.pow 10 exponent.toNat) = range.floor exponent range.value := rfl
  simp only [onGrid?, floor_eq]
  cases range.holds (range.floor exponent range.value) exponent <;>
    cases range.holds (range.floor exponent range.value + 1) exponent
  case true.true => cases tie <;> dsimp only <;> split_ifs <;> simp
  all_goals simp

/-- Something is found on a grid that is finer than the interval is wide: a point of it lies in the
interval, and so does the one of the two next to the value that is on the same side. -/
theorem isSome_onGrid? (tie : Tie) (lower : range.share range.low < range.share range.value)
    (higher : range.share range.value < range.share range.high)
    (fine : 10 ^ exponent < range.share range.high - range.share range.low) :
    (range.onGrid? tie exponent).isSome = true := by
  have spacing := ten_zpow_pos exponent
  obtain ⟨point, above, below⟩ : ∃ point : Nat, range.share range.low < point * 10 ^ exponent ∧
      point * 10 ^ exponent < range.share range.high := by
    have under := floor_le some exponent range.low
    refine ⟨_, lt_floor_add_one some exponent range.low, ?_⟩
    rw [Nat.cast_add, Nat.cast_one, add_mul, one_mul]
    linarith
  refine (onGrid?_spec range tie exponent).2 ?_
  have under := floor_le some exponent range.value
  have past := lt_floor_add_one some exponent range.value
  rcases Nat.lt_or_ge (range.floor exponent range.value) point with after | before
  · have step := mul_le_mul_of_nonneg_right (Nat.cast_le (α := ℚ).mpr after) spacing.le
    exact .inr (holds_of_between some (lower.trans past) (step.trans_lt below))
  · have step := mul_le_mul_of_nonneg_right (Nat.cast_le (α := ℚ).mpr before) spacing.le
    exact .inl (holds_of_between some (above.trans_le step) (under.trans_lt higher))

/-- The value has as many places before its point as counted. -/
theorem places_spec (positive : 0 < range.value) :
    10 ^ (range.places - 1) ≤ range.share range.value ∧
      range.share range.value < 10 ^ range.places := by
  have den : (0 : ℚ) < range.den := Nat.cast_pos.mpr some
  have ten : (10 : ℚ) ≠ 0 := by norm_num
  have upper : (range.value : ℚ) < 10 ^ (Double.digitCount range.value : ℤ) := by
    exact_mod_cast lt_ten_pow_digitCount range.value
  have upperDen : (range.den : ℚ) < 10 ^ (Double.digitCount range.den : ℤ) := by
    exact_mod_cast lt_ten_pow_digitCount range.den
  have lower : (10 : ℚ) ^ ((Double.digitCount range.value : ℤ) - 1) ≤ range.value := by
    rw [← Nat.cast_one, ← Nat.cast_sub (digitCount_pos _), zpow_natCast]
    exact_mod_cast ten_pow_le_of_digitCount positive
  have lowerDen : (10 : ℚ) ^ ((Double.digitCount range.den : ℤ) - 1) ≤ range.den := by
    rw [← Nat.cast_one, ← Nat.cast_sub (digitCount_pos _), zpow_natCast]
    exact_mod_cast ten_pow_le_of_digitCount some
  generalize counted : (Double.digitCount range.value : ℤ) - Double.digitCount range.den = guess
  have reached : range.den * Nat.pow 10 guess.toNat ≤ range.value * Nat.pow 10 (-guess).toNat ↔
      10 ^ guess ≤ range.share range.value := by
    have compared : range.share range.value < (1 : Nat) * 10 ^ guess ↔ _ := share_lt_iff some
    rw [Nat.cast_one, one_mul, Nat.one_mul, mul_comm (10 ^ _)] at compared
    rw [← not_lt, ← not_lt, compared]
    rfl
  rw [places, counted]
  split_ifs with met
  · rw [reached] at met
    refine ⟨by rw [add_sub_cancel_right]; exact met, ?_⟩
    rw [share, div_lt_iff₀ den]
    calc (range.value : ℚ) < 10 ^ (Double.digitCount range.value : ℤ) := upper
      _ = 10 ^ (guess + 1) * 10 ^ ((Double.digitCount range.den : ℤ) - 1) := by
        rw [← zpow_add₀ ten]
        congr 1
        omega
      _ ≤ 10 ^ (guess + 1) * range.den :=
        mul_le_mul_of_nonneg_left lowerDen (ten_zpow_pos _).le
  · rw [reached, not_le] at met
    refine ⟨?_, met⟩
    rw [share, le_div_iff₀ den]
    calc (10 : ℚ) ^ (guess - 1) * range.den
        ≤ 10 ^ (guess - 1) * 10 ^ (Double.digitCount range.den : ℤ) :=
          mul_le_mul_of_nonneg_left upperDen.le (ten_zpow_pos _).le
      _ = 10 ^ ((Double.digitCount range.value : ℤ) - 1) := by
        rw [← zpow_add₀ ten]
        congr 1
        omega
      _ ≤ range.value := lower

end Interval

/-! ## Intervals of doubles -/

section Doubles

variable (x : Double)

/-- A quarter of the distance between a double and the next one above it. -/
def quarter : ℚ := 2 ^ (x.scale - 2)

theorem quarter_pos : 0 < quarter x := zpow_pos two_pos _

theorem den_pos : 0 < (Interval.of x).den := Nat.two_pow_pos _

theorem share_of (number : Nat) :
    (Interval.of x).share (number * Nat.pow 2 (x.scale - 2).toNat) = number * quarter x := by
  rw [quarter, zpow_eq_div two_ne_zero, Interval.share, mul_div_assoc']
  simp [Interval.of]

theorem size_eq_quarters : x.size = 4 * x.significand * quarter x := by
  rw [Double.size, quarter, zpow_sub₀ two_ne_zero]
  ring

theorem share_value : (Interval.of x).share (Interval.of x).value = x.size := by
  rw [size_eq_quarters]
  exact_mod_cast share_of x (4 * x.significand)

theorem share_high : (Interval.of x).share (Interval.of x).high = x.size + 2 * quarter x := by
  have high := share_of x (4 * x.significand + 2)
  rw [size_eq_quarters, ← add_mul]
  exact_mod_cast high

variable {x}
variable (some : x.magnitude ≠ 0)
include some

theorem significand_pos : 0 < x.significand := by
  have units : x.units ≠ 0 := mt Double.units_eq_zero_iff.mp some
  rw [Double.units] at units
  exact Nat.pos_of_ne_zero (left_ne_zero_of_mul units)

theorem value_pos : 0 < (Interval.of x).value := by
  have least := significand_pos some
  have power : 0 < Nat.pow 2 (x.scale - 2).toNat := Nat.two_pow_pos _
  exact Nat.mul_pos (by omega) power

/-- The lower half of the interval is half as wide above a power of two. -/
theorem share_low :
    (Interval.of x).share (Interval.of x).low = x.size -
      if x.fractionField = 0 ∧ 1 < x.exponentField then quarter x else 2 * quarter x := by
  have least := significand_pos some
  split_ifs with narrow
  · have low : (Interval.of x).low = (4 * x.significand - 1) * Nat.pow 2 (x.scale - 2).toNat := by
      simp [Interval.of, narrow]
    rw [low, share_of, size_eq_quarters, Nat.cast_sub (by omega)]
    push_cast
    ring
  · have low : (Interval.of x).low = (4 * x.significand - 2) * Nat.pow 2 (x.scale - 2).toNat := by
      simp only [Interval.of, Bool.and_eq_true, decide_eq_true_eq, narrow, if_false]
    rw [low, share_of, size_eq_quarters, Nat.cast_sub (by omega)]
    push_cast
    ring

theorem three_quarters_le :
    3 * quarter x ≤ (Interval.of x).share (Interval.of x).high -
      (Interval.of x).share (Interval.of x).low := by
  have positive := quarter_pos x
  rw [share_high, share_low some]
  split_ifs <;> linarith

/-- A grid of seventeen digits is finer than the interval is wide. -/
theorem seventeen_fine :
    10 ^ ((Interval.of x).places - 17) < (Interval.of x).share (Interval.of x).high -
      (Interval.of x).share (Interval.of x).low := by
  have positive := quarter_pos x
  have places := ((Interval.of x).places_spec (den_pos x) (value_pos some)).1
  rw [share_value, size_eq_quarters] at places
  have shifted : (10 : ℚ) ^ ((Interval.of x).places - 17) =
      10 ^ ((Interval.of x).places - 1) / 10 ^ 16 := by
    rw [← zpow_natCast, ← zpow_sub₀ (by norm_num)]
    congr 1
    omega
  rw [shifted, share_high, share_low some, div_lt_iff₀ (by norm_num)]
  split_ifs with narrow
  · have power : x.significand = 2 ^ 52 := by
      rw [Double.significand, if_neg (by omega), narrow.1]
      rfl
    rw [power] at places
    push_cast at places
    linarith
  · have digits : (x.significand : ℚ) < 2 ^ 53 := by exact_mod_cast x.significand_lt
    have bound := mul_lt_mul_of_pos_right digits positive
    linarith

/-- So are the multiples of `10 ^ -324`. -/
theorem deepest_fine :
    10 ^ (-324 : ℤ) < (Interval.of x).share (Interval.of x).high -
      (Interval.of x).share (Interval.of x).low := by
  refine lt_of_lt_of_le ?_ (three_quarters_le some)
  have least : (2 : ℚ) ^ (-1076 : ℤ) ≤ quarter x := by
    refine zpow_le_zpow_right₀ one_le_two ?_
    unfold Double.scale
    omega
  refine lt_of_lt_of_le ?_ (mul_le_mul_of_nonneg_left least (by norm_num))
  have enough : 2 ^ 1076 < 3 * 10 ^ 324 := by decide +kernel
  rw [zpow_neg, zpow_neg, ← div_eq_mul_inv, inv_eq_one_div,
    div_lt_div_iff₀ (ten_zpow_pos _) (zpow_pos two_pos _), one_mul]
  exact_mod_cast enough

/-- The least positive double is above `10 ^ -324`. -/
theorem neg_324_lt_places : -324 < (Interval.of x).places := by
  have places := ((Interval.of x).places_spec (den_pos x) (value_pos some)).2
  rw [share_value, Double.size_eq_units] at places
  have least : (1 : ℚ) ≤ x.units := by
    exact_mod_cast Nat.one_le_iff_ne_zero.mpr (mt Double.units_eq_zero_iff.mp some)
  have unit : (10 : ℚ) ^ (-324 : ℤ) < Double.unit := by
    have enough : 2 ^ 1074 < 10 ^ 324 := by decide +kernel
    rw [Double.unit, zpow_neg, zpow_neg, inv_lt_inv₀ (ten_zpow_pos _) (zpow_pos two_pos _)]
    exact_mod_cast enough
  have above : (10 : ℚ) ^ (-324 : ℤ) < 10 ^ (Interval.of x).places := by
    calc (10 : ℚ) ^ (-324 : ℤ) < Double.unit := unit
      _ ≤ x.units * Double.unit := le_mul_of_one_le_left Double.unit_pos.le least
      _ < _ := places
  exact (zpow_lt_zpow_iff_right₀ (by norm_num)).mp above

omit some in
/-- A finite double has at most 309 places before its point. -/
theorem places_le (some : x.magnitude ≠ 0) (finite : x.isFinite = true) :
    (Interval.of x).places ≤ 309 := by
  have places := ((Interval.of x).places_spec (den_pos x) (value_pos some)).1
  rw [share_value, Double.size] at places
  have digits : (x.significand : ℚ) < 2 ^ 53 := by exact_mod_cast x.significand_lt
  have scale : x.scale ≤ 971 := by
    have top : x.exponentField < 2047 := by
      rw [Double.exponentField]
      exact Nat.div_lt_of_lt_mul (by simpa [Double.isFinite, Nat.mul_comm] using finite)
    unfold Double.scale
    omega
  have power : (2 : ℚ) ^ x.scale ≤ 2 ^ (971 : ℤ) := zpow_le_zpow_right₀ one_le_two scale
  have below : (10 : ℚ) ^ ((Interval.of x).places - 1) < 10 ^ (309 : ℤ) := by
    have enough : 2 ^ 53 * 2 ^ 971 < 10 ^ 309 := by decide +kernel
    calc (10 : ℚ) ^ ((Interval.of x).places - 1) ≤ x.significand * 2 ^ x.scale := places
      _ ≤ 2 ^ 53 * 2 ^ (971 : ℤ) :=
        mul_le_mul digits.le power (zpow_pos two_pos _).le (pow_pos two_pos _).le
      _ < 10 ^ (309 : ℤ) := by exact_mod_cast enough
  have least := (zpow_lt_zpow_iff_right₀ (by norm_num)).mp below
  omega

theorem isSome_onGrid?_of_fine (tie : Tie) {exponent : ℤ}
    (fine : 10 ^ exponent < (Interval.of x).share (Interval.of x).high -
      (Interval.of x).share (Interval.of x).low) :
    ((Interval.of x).onGrid? tie exponent).isSome = true := by
  have positive := quarter_pos x
  refine Interval.isSome_onGrid? (den_pos x) tie ?_ ?_ fine
  · rw [share_low some, share_value]
    split_ifs <;> linarith
  · rw [share_high, share_value]
    linarith

omit some in
/-- Points of a grid of so many digits next to a double have as many. -/
theorem digits_of_onGrid? (some : x.magnitude ≠ 0) {tie : Tie} {exponent : ℤ} {count : Nat}
    {d : Digits} (placed : exponent = (Interval.of x).places - count) (positive : 0 < count)
    (found : (Interval.of x).onGrid? tie exponent = .some d) :
    d.exponent = exponent ∧ 0 < d.digits ∧ d.digits ≤ 10 ^ count := by
  obtain ⟨same, digits⟩ := (Interval.onGrid?_spec _ tie _).1 d found
  have spacing := ten_zpow_pos exponent
  have under := Interval.floor_le (den_pos x) exponent (Interval.of x).value
  have past := Interval.lt_floor_add_one (den_pos x) exponent (Interval.of x).value
  obtain ⟨least, most⟩ := (Interval.of x).places_spec (den_pos x) (value_pos some)
  have few : (Interval.of x).floor exponent (Interval.of x).value < 10 ^ count := by
    have split : (10 : ℚ) ^ (Interval.of x).places = 10 ^ count * 10 ^ exponent := by
      rw [← zpow_natCast, ← zpow_add₀ (by norm_num)]
      congr 1
      omega
    rw [split] at most
    exact_mod_cast lt_of_mul_lt_mul_right (under.trans_lt most) spacing.le
  have one : 0 < (Interval.of x).floor exponent (Interval.of x).value := by
    have step : (10 : ℚ) ^ exponent ≤ 10 ^ ((Interval.of x).places - 1) :=
      zpow_le_zpow_right₀ (by norm_num) (by omega)
    have next := (lt_mul_iff_one_lt_left spacing).mp ((step.trans least).trans_lt past)
    rw [← Nat.cast_one, Nat.cast_lt] at next
    omega
  refine ⟨same, ?_, ?_⟩ <;> rcases digits with here | next <;> omega

/-- The shortest digits come from a grid of at most seventeen digits, and of no finer one than the
multiples of `10 ^ -324`. -/
theorem shortest_spec (tie : Tie) :
    ∃ (d : Digits) (count : Nat), shortest tie x = d.strip 17 ∧ count ≤ 17 ∧
      d.exponent = (Interval.of x).places - count ∧ -324 ≤ d.exponent ∧
      0 < d.digits ∧ d.digits ≤ 10 ^ count := by
  rw [shortest, if_neg some]
  dsimp only
  cases found : (List.range 17).findSome? fun count =>
      (Interval.of x).onGrid? tie ((Interval.of x).places - (count + 1 : Nat)) with
  | none =>
    have last := List.findSome?_eq_none_iff.mp found 16 (by decide)
    have hit := isSome_onGrid?_of_fine some tie (seventeen_fine some)
    rw [show ((Interval.of x).places - 17 : ℤ) = (Interval.of x).places - (16 + 1 : Nat) from rfl,
      last] at hit
    cases hit
  | some d =>
    obtain ⟨before, count, after, range, here, missed⟩ := List.findSome?_eq_some_iff.mp found
    obtain ⟨exponent, positive, few⟩ := digits_of_onGrid? some rfl (Nat.succ_pos count) here
    have among : count < 17 := by
      rw [← List.mem_range, range]
      simp
    refine ⟨d, count + 1, rfl, among, exponent, ?_, positive, few⟩
    -- A finer grid is not reached, since something would have been found on the multiples before.
    by_contra deeper
    have least := neg_324_lt_places some
    obtain ⟨place, placed⟩ : ∃ place : Nat,
        (Interval.of x).places - (place + 1 : Nat) = -324 :=
      ⟨((Interval.of x).places + 323).toNat, by omega⟩
    have earlier : place < count := by omega
    have met : place ∈ before := by
      have ordered := @List.pairwise_lt_range 17
      have member : place ∈ List.range 17 := List.mem_range.mpr (by omega)
      rw [range] at ordered member
      rcases List.mem_append.mp member with first | later
      · exact first
      · rcases List.mem_cons.mp later with rfl | rest
        · omega
        · have := List.rel_of_pairwise_cons (List.pairwise_append.mp ordered).2.1 rest
          omega
    have hit := isSome_onGrid?_of_fine some tie (deepest_fine some)
    rw [← placed, missed place met] at hit
    cases hit

end Doubles

/-! ## Written forms -/

/-- Zeros are dropped from the end of the digits and counted on the exponent. -/
theorem Digits.strip_spec (fuel : Nat) (d : Digits) :
    ∃ dropped : Nat, d.digits = (d.strip fuel).digits * 10 ^ dropped ∧
      (d.strip fuel).exponent = d.exponent + dropped := by
  induction fuel generalizing d with
  | zero => exact ⟨0, (Nat.mul_one _).symm, (Int.add_zero _).symm⟩
  | succ fuel ih =>
    rw [strip]
    split_ifs with more
    · obtain ⟨dropped, digits, exponent⟩ := ih ⟨d.digits / 10, d.exponent + 1⟩
      rw [Bool.and_eq_true, decide_eq_true_eq, decide_eq_true_eq] at more
      dsimp only at digits exponent
      refine ⟨dropped + 1, ?_, by omega⟩
      rw [pow_succ, ← mul_assoc, ← digits]
      omega
    · exact ⟨0, (Nat.mul_one _).symm, (Int.add_zero _).symm⟩

theorem length_zeros (count : Nat) : (zeros count).length = count := by
  rw [zeros, String.length_ofList, List.length_replicate]

theorem length_withPoint (chars : List Char) (places : Nat) :
    (withPoint chars places).length = chars.length + 1 := by
  rw [withPoint, String.length_ofList, List.length_append, List.length_cons, List.length_take,
    List.length_drop]
  omega

/-- How many characters digits take in full: one each, a point and a zero before it if they begin
after it, and zeros up to it. -/
def Digits.width (d : Digits) : Nat :=
  let count := Double.digitCount d.digits
  if 0 ≤ d.exponent then count + d.exponent.toNat
  else max (count + 1) (2 + (-d.exponent).toNat)

theorem length_plainDigits (d : Digits) : (plainDigits d).length = d.width := by
  have point : "0.".length = 2 := rfl
  rw [plainDigits, Digits.width, Double.digitCount]
  dsimp only
  split_ifs with whole short
  · rw [String.length_append, String.length_ofList, length_zeros]
  · rw [length_withPoint]
    omega
  · rw [String.length_append, String.length_append, point, length_zeros, String.length_ofList]
    omega

theorem Digits.width_le {d : Digits} {count : Nat} (some : 0 < count)
    (few : d.digits < 10 ^ count) :
    (d.width : ℤ) ≤ max (d.exponent + count) (max (count + 1) (2 - d.exponent)) := by
  have length : Double.digitCount d.digits ≤ count :=
    (Nat.length_toDigits_le_iff (by decide) some).mpr few
  rw [width]
  split_ifs <;> omega

/-- How many characters a double takes in full, if it is finite. -/
def width (x : Double) : Nat := (shortest .up x).width + if x.isNegative then 1 else 0

theorem length_plain {x : Double} (finite : x.isFinite = true) : (plain x).length = width x := by
  have sign : "-".length = 1 := rfl
  rw [plain, signed, Double.isNaN_of_isFinite finite, if_neg Bool.false_ne_true, if_pos finite,
    width]
  split_ifs
  · rw [String.length_append, sign, length_plainDigits, Nat.add_comm]
  · rw [length_plainDigits, Nat.add_zero]

/-- A finite double is written in full with at most 327 characters. -/
theorem width_le {x : Double} (finite : x.isFinite = true) : width x ≤ 327 := by
  have digits : (shortest .up x).width ≤ 326 := by
    by_cases nothing : x.magnitude = 0
    · rw [shortest, if_pos nothing]
      decide
    · obtain ⟨d, count, shortened, most, exponent, least, some, few⟩ :=
        shortest_spec nothing .up
      have places := places_le nothing finite
      obtain ⟨dropped, digits, moved⟩ := d.strip_spec 17
      have kept : 0 < (d.strip 17).digits := Nat.pos_of_mul_pos_right (digits ▸ some)
      have short : dropped ≤ count := by
        refine (Nat.pow_le_pow_iff_right (by decide : 1 < 10)).mp (le_trans ?_ few)
        rw [digits]
        exact Nat.le_mul_of_pos_left _ kept
      have fewer : (d.strip 17).digits < 10 ^ (count - dropped + 1) := by
        refine lt_of_le_of_lt ?_ (Nat.pow_lt_pow_succ (by decide))
        refine Nat.le_of_mul_le_mul_right ?_ (Nat.pow_pos (by decide) : 0 < 10 ^ dropped)
        rw [← digits, ← pow_add, Nat.sub_add_cancel short]
        exact few
      have bound := Digits.width_le (Nat.succ_pos _) fewer
      rw [shortened]
      omega
  rw [width]
  split_ifs <;> omega

end Fieldwatch.Decimal
