import Fieldwatch.Time.Instant

/-!
# Time windows

Two changes a tolerance apart at most count as the same change, and a published entry is kept for
a retention. Where the start of a window lies before the first instant, the window covers all.
-/
namespace Fieldwatch

/-- Whether `last` is no earlier than `occurredOn` less the tolerance. -/
def withinTolerance (last occurredOn : Instant) (tolerance : Span) : Bool :=
  match occurredOn.sub? tolerance with
  | some floor => floor ≤ last
  | none => true

/-- A change is within any tolerance of itself. -/
theorem withinTolerance_self (moment : Instant) {tolerance : Span} (nonneg : 0 ≤ tolerance.nanos) :
    withinTolerance moment moment tolerance = true := by
  unfold withinTolerance
  split
  · next found => simpa using Instant.sub?_le nonneg found
  · rfl

/-- The longest window that can be taken off an instant: 2^63 - 1 milliseconds. -/
def Span.longest : Nat := (Nat.pow 2 63 - 1) * 1000000

/-- The moment before which published entries are dropped; none when nothing is old enough. -/
def retentionCutoff (retention : Nat) (now : Instant) : Option Instant :=
  if retention ≤ Span.longest then now.sub? ⟨retention⟩ else none

end Fieldwatch
