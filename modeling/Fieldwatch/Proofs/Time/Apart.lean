import Mathlib.Order.Defs.LinearOrder
import Fieldwatch.Time.Window

/-!
# Instants apart

Two instants are apart when the later one comes more than a tolerance after the earlier one. Then
the later one is outside the window of the earlier one, and which of the two is later is told by
the order alone.
-/
namespace Fieldwatch

namespace Instant

instance : LinearOrder Instant where
  le_refl moment := Int.le_refl moment.rank
  le_trans _ _ _ := Int.le_trans
  lt_iff_le_not_ge _ _ := Int.lt_iff_le_and_not_ge
  le_antisymm _ _ below above := rank_inj.mp (Int.le_antisymm below above)
  le_total _ _ := Int.le_total ..
  toDecidableLE := inferInstance

variable {a b : Instant} {tolerance : Span}

/-- Whether one of two instants comes more than a tolerance after the other, in nanoseconds from
1 January 1970: a leap second is no further from what follows than the second after it is. -/
def Apart (tolerance : Span) (a b : Instant) : Prop :=
  a < b ∧ tolerance.nanos < b.nanos - a.nanos ∨ b < a ∧ tolerance.nanos < a.nanos - b.nanos

instance (tolerance : Span) (a b : Instant) : Decidable (Apart tolerance a b) :=
  inferInstanceAs (Decidable (_ ∨ _))

theorem Apart.symm (apart : Apart tolerance a b) : Apart tolerance b a := Or.symm apart

theorem Apart.ne (apart : Apart tolerance a b) : a ≠ b := by
  rintro rfl
  rcases apart with ⟨before, -⟩ | ⟨before, -⟩ <;> exact absurd before (lt_irrefl _)

/-- Outside leap seconds, instants are apart when their distance exceeds the tolerance. -/
theorem apart_iff (nonneg : 0 ≤ tolerance.nanos) (plainA : a.isLeap = false)
    (plainB : b.isLeap = false) :
    Apart tolerance a b ↔ tolerance.nanos < (a.nanos - b.nanos).natAbs := by
  simp only [isLeap, decide_eq_false_iff_not] at plainA plainB
  simp only [Apart, lt_iff, nanos]
  omega

/-- An instant of nanoseconds in range exists. -/
theorem exists_ofNanos? {nanos : Int} (above : a.nanos ≤ nanos)
    (below : nanos / 1000000000 ≤ last) : ∃ moment, ofNanos? nanos = some moment := by
  have start := a.first_le
  cases found : ofNanos? nanos with
  | some moment => exact ⟨moment, rfl⟩
  | none =>
    rw [ofNanos?_eq_none_iff] at found
    simp only [Instant.nanos] at above
    omega

/-- An instant outside leap seconds is after those of fewer nanoseconds. -/
theorem lt_of_nanos_lt (plain : b.isLeap = false) (fewer : a.nanos < b.nanos) : a < b := by
  simp only [isLeap, decide_eq_false_iff_not, nanos] at plain fewer
  rw [lt_iff]
  omega

/-- A tolerance before an instant is still after any that it is that far from. -/
theorem exists_sub? (nonneg : 0 ≤ tolerance.nanos) (before : a < b)
    (far : tolerance.nanos < b.nanos - a.nanos) :
    ∃ floor, b.sub? tolerance = some floor ∧ a < floor := by
  have negated : tolerance.neg.nanos = -tolerance.nanos := rfl
  have finish := b.le_last
  have limit := b.fraction_lt_two_seconds
  -- Unless the window starts within the leap second of `b`, it starts outside all of them.
  have plainly (inRange : (b.nanos - tolerance.nanos) / 1000000000 ≤ last) :
      ∃ floor, ofNanos? (b.nanos + tolerance.neg.nanos) = some floor ∧ a < floor := by
    rw [negated, ← Int.sub_eq_add_neg]
    obtain ⟨floor, found⟩ := exists_ofNanos? (a := a) (by omega) inRange
    obtain ⟨same, plain⟩ := ofNanos?_eq_some_iff.mp found
    exact ⟨floor, found, lt_of_nanos_lt plain (by omega)⟩
  simp only [sub?, add?, isLeap, decide_eq_true_eq]
  split
  · next leap =>
    rw [if_neg (by omega)]
    split
    · next long => exact plainly (by simp only [nanos]; omega)
    · next short =>
      have within : ((b.fraction : Int) + tolerance.neg.nanos).toNat < fractionLimit b.second :=
        Nat.lt_of_le_of_lt (by omega) b.fraction_lt
      refine ⟨⟨b.second, _, b.first_le, b.le_last, within⟩, ofParts?_eq_some_iff.mpr ⟨rfl, rfl⟩, ?_⟩
      rw [lt_iff] at before ⊢
      simp only [nanos] at far ⊢
      omega
  · next plain => exact plainly (by simp only [nanos]; omega)

end Instant

/-- A change is not taken to restate one that is apart from it and comes before it. -/
theorem withinTolerance_eq_false {a b : Instant} {tolerance : Span} (nonneg : 0 ≤ tolerance.nanos)
    (before : a < b) (apart : Instant.Apart tolerance a b) :
    withinTolerance a b tolerance = false := by
  rcases apart with ⟨-, far⟩ | ⟨after, -⟩
  · obtain ⟨floor, found, later⟩ := Instant.exists_sub? nonneg before far
    rw [withinTolerance, found]
    exact decide_eq_false (not_le_of_gt later)
  · exact absurd before (lt_asymm after)

end Fieldwatch
