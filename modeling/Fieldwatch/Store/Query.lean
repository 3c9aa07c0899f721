import Fieldwatch.Reading.Basic

/-!
# Queries

Which snapshots a read returns, and which readings: those of a sensor, within a time window, cut
to a page.
-/
namespace Fieldwatch

/-- Whether a read returns inactive snapshots too. -/
inductive Liveness
  | activeOnly
  | includeInactive
  deriving DecidableEq, Repr

namespace Liveness

/-- Whether a snapshot of the given liveness is returned. -/
def admits (liveness : Liveness) (isActive : Bool) : Bool :=
  match liveness with
  | activeOnly => isActive
  | includeInactive => true

/-- Whether inactive snapshots are returned too. -/
def includesInactive (liveness : Liveness) : Bool := liveness = includeInactive

end Liveness

structure ReadingQuery where
  sensorId : Option SensorId := none
  /-- The earliest time wanted. -/
  earliest : Option Instant := none
  /-- The latest time wanted. -/
  latest : Option Instant := none
  /-- At most how many readings. -/
  limit : Option UInt64 := none
  /-- How many readings are skipped. -/
  offset : Option UInt64 := none
  deriving DecidableEq

namespace ReadingQuery

/-- Whether a reading of a sensor at a time is wanted. -/
def accepts (query : ReadingQuery) (sensorId : SensorId) (time : Instant) : Bool :=
  query.sensorId.all (fun wanted => wanted = sensorId)
    && query.earliest.all (fun earliest => earliest ≤ time)
    && query.latest.all (fun latest => time ≤ latest)

def page {α : Type} (query : ReadingQuery) (rows : List α) : List α :=
  let rest := rows.drop ((query.offset.map UInt64.toNat).getD 0)
  match query.limit with
  | some limit => rest.take limit.toNat
  | none => rest

end ReadingQuery
end Fieldwatch
