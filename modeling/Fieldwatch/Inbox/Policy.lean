import Fieldwatch.Time.Window

/-!
# Staleness policy

How far apart two events may be and still restate one change. The tolerance lies between nothing
and one day; anything else is moved to the nearer end.
-/
namespace Fieldwatch

def StalenessPolicy.maxSeconds : Nat := 86400

/-- A tolerance between nothing and one day. -/
structure StalenessPolicy where
  tolerance : Span
  nonneg : 0 ≤ tolerance.nanos
  le_day : tolerance.nanos ≤ (Span.seconds StalenessPolicy.maxSeconds).nanos
  deriving DecidableEq, Repr

namespace StalenessPolicy

/-- A policy of a tolerance, moved into its range. -/
def ofSpan (tolerance : Span) : StalenessPolicy :=
  ⟨⟨min (max tolerance.nanos 0) (Span.seconds maxSeconds).nanos⟩,
    Int.le_min.mpr ⟨Int.le_max_right .., by decide⟩, Int.min_le_right ..⟩

/-- A policy of a number of seconds, moved into its range. -/
def ofSeconds (count : UInt64) : StalenessPolicy :=
  ofSpan (.seconds (min count.toNat maxSeconds : Nat))

def defaultSeconds : UInt64 := 5

def standard : StalenessPolicy := ofSeconds defaultSeconds

end StalenessPolicy
end Fieldwatch
