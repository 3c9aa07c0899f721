import Fieldwatch.Alert.Command
import Fieldwatch.Store.ChangeSet
import Fieldwatch.Store.Query

/-!
# Stores

What the service asks of a store: reads of each table, one atomic commit, and the delivery
bookkeeping of the outbox. A call answers or fails, and either way leaves a store behind.
-/
namespace Fieldwatch

/-- An alert with the version it is stored at. -/
structure StoredAlert where
  record : AlertRecord
  version : Int
  deriving DecidableEq

abbrev Access (σ α : Type) := ExceptT StoreError (StateM σ) α

class Backend (σ : Type) where
  /-- Applies every staged write, or none. -/
  commit (changes : ChangeSet) : Access σ CommitReceipt
  getSensor (id : SensorId) (liveness : Liveness) : Access σ (Option SensorSnapshot)
  /-- The snapshots among the given ones that are there. -/
  getSensors (ids : List SensorId) (liveness : Liveness) : Access σ (List SensorSnapshot)
  getOwner (id : OwnerId) (liveness : Liveness) : Access σ (Option OwnerSnapshot)
  getOwners (ids : List OwnerId) (liveness : Liveness) : Access σ (List OwnerSnapshot)
  getReading (id : EntityId) : Access σ (Option ReadingRecord)
  /-- The readings wanted, by time. -/
  queryReadings (query : ReadingQuery) : Access σ (List ReadingRecord)
  getAlert (id : EntityId) : Access σ (Option Alert)
  /-- The alerts of a sensor, the newest first. -/
  alertsForSensor (id : SensorId) : Access σ (List AlertRecord)
  /-- The first entries still to be published, the oldest first. -/
  fetchUnpublished (limit : UInt64) (maxAttempts : UInt32) : Access σ (List OutboxEntry)
  markPublished (id : EntryId) (now : Instant) : Access σ Unit
  /-- Records a refused publication and answers the status of the entry. -/
  markFailed (id : EntryId) (reason : String) (now : Instant) : Access σ OutboxStatus
  /-- Drops the entries published longer ago than a number of nanoseconds, and counts them. -/
  prunePublished (retention : Nat) (now : Instant) : Access σ Nat

namespace Backend

variable {σ : Type} [Backend σ]

def sensorExists (id : SensorId) (liveness : Liveness) : Access σ Bool := do
  return (← getSensor id liveness).isSome

def ownerExists (id : OwnerId) (liveness : Liveness) : Access σ Bool := do
  return (← getOwner id liveness).isSome

end Backend
end Fieldwatch
