import Fieldwatch.Store.Backend

/-!
# A store that fails on demand

A stand-in for a store that is out of reach for some calls: the next calls of a kind fail, as many
as were asked for, and every other call goes to the store behind it. Commits always go through.
-/
namespace Fieldwatch.Rehearsal

inductive StoreCall
  | getSensor
  | getSensors
  | getOwner
  | getOwners
  | getReading
  | queryReadings
  | getAlert
  | alertsForSensor
  | fetchUnpublished
  | markPublished
  | markFailed
  | prunePublished
  deriving DecidableEq, Repr

namespace StoreCall

def name : StoreCall → String
  | getSensor => "get_sensor"
  | getSensors => "get_sensors"
  | getOwner => "get_owner"
  | getOwners => "get_owners"
  | getReading => "get_reading"
  | queryReadings => "query_readings"
  | getAlert => "get_alert"
  | alertsForSensor => "alerts_for_sensor"
  | fetchUnpublished => "fetch_unpublished"
  | markPublished => "mark_published"
  | markFailed => "mark_failed"
  | prunePublished => "prune_published"

def all : List StoreCall :=
  [getSensor, getSensors, getOwner, getOwners, getReading, queryReadings, getAlert,
    alertsForSensor, fetchUnpublished, markPublished, markFailed, prunePublished]

def ofName? (text : String) : Option StoreCall :=
  all.find? fun call => call.name = text

end StoreCall

/-- A store whose calls can be made to fail. -/
structure Faulty (σ : Type) where
  store : σ
  /-- How many of the next calls fail. -/
  failures : StoreCall → Nat := fun _ => 0

namespace Faulty

variable {σ α : Type}

/-- Makes a number of the next calls of a kind fail. -/
def fail (faulty : Faulty σ) (call : StoreCall) (times : Nat) : Faulty σ :=
  { faulty with failures := fun other => if other = call then times else faulty.failures other }

def behind (access : Access σ α) : Access (Faulty σ) α := fun faulty =>
  let (result, store) := access faulty.store
  (result, { faulty with store })

/-- A call that fails if it is its turn to. -/
def guarded (call : StoreCall) (access : Access σ α) : Access (Faulty σ) α := fun faulty =>
  match faulty.failures call with
  | 0 => behind access faulty
  | times + 1 =>
    (.error (.unavailable ("injected " ++ call.name ++ " failure")), faulty.fail call times)

instance [Backend σ] : Backend (Faulty σ) where
  commit changes := behind (Backend.commit changes)
  getSensor id liveness := guarded .getSensor (Backend.getSensor id liveness)
  getSensors ids liveness := guarded .getSensors (Backend.getSensors ids liveness)
  getOwner id liveness := guarded .getOwner (Backend.getOwner id liveness)
  getOwners ids liveness := guarded .getOwners (Backend.getOwners ids liveness)
  getReading id := guarded .getReading (Backend.getReading id)
  queryReadings query := guarded .queryReadings (Backend.queryReadings query)
  getAlert id := guarded .getAlert (Backend.getAlert id)
  alertsForSensor id := guarded .alertsForSensor (Backend.alertsForSensor id)
  fetchUnpublished limit maxAttempts :=
    guarded .fetchUnpublished (Backend.fetchUnpublished limit maxAttempts)
  markPublished id now := guarded .markPublished (Backend.markPublished id now)
  markFailed id reason now := guarded .markFailed (Backend.markFailed id reason now)
  prunePublished retention now := guarded .prunePublished (Backend.prunePublished retention now)

end Faulty
end Fieldwatch.Rehearsal
