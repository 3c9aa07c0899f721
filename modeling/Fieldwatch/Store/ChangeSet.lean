import Fieldwatch.Alert.Basic
import Fieldwatch.Outbox.Entry
import Fieldwatch.Owner.Snapshot
import Fieldwatch.Reading.Basic
import Fieldwatch.Sensor.Snapshot
import Fieldwatch.Store.Error

/-!
# Change sets

Every write of one use case, staged to be committed as one. Nothing is seen of a change set that
is not committed.
-/
namespace Fieldwatch

/-- A local copy of something owned elsewhere, which is retired and never removed. -/
class Snapshot (σ : Type) (kind : outParam IdKind) where
  id : σ → Id kind
  isActive : σ → Bool
  /-- The snapshot retired by a change at a time, unless it is retired already. -/
  retire? : σ → (occurredOn now : Instant) → Option σ

instance : Snapshot SensorSnapshot .sensor where
  id := SensorSnapshot.id
  isActive := SensorSnapshot.isActive
  retire? sensor := sensor.deactivate? none

instance : Snapshot OwnerSnapshot .owner where
  id := OwnerSnapshot.id
  isActive := OwnerSnapshot.isActive
  retire? := OwnerSnapshot.deactivate?

/-- A staged write to a table of snapshots. -/
inductive SnapshotWrite (σ : Type) (kind : IdKind)
  /-- Adds a row; ignored if there is one. -/
  | add (snapshot : σ)
  /-- Overwrites a row; ignored if there is none. -/
  | update (snapshot : σ)
  /-- Retires a row; ignored if there is none or it is retired. -/
  | delete (id : Id kind) (occurredOn now : Instant)
  deriving DecidableEq

structure AlertWrite where
  record : AlertRecord
  /-- The version that the stored alert must have. -/
  expected : Int
  /-- The version that it has afterwards. -/
  next : Int
  deriving DecidableEq

structure ChangeSet where
  readings : List ReadingRecord := []
  alerts : List AlertWrite := []
  sensors : List (SnapshotWrite SensorSnapshot .sensor) := []
  owners : List (SnapshotWrite OwnerSnapshot .owner) := []
  outbox : List OutboxEntry := []

/-- What a commit wrote: the writes that took effect, and the outbox entries added. -/
structure CommitReceipt where
  writes : Nat
  outboxEntries : Nat
  deriving DecidableEq, Repr

namespace ChangeSet

def empty : ChangeSet := {}

/-- Stages a reading, which must have been recorded. -/
def addReading (changes : ChangeSet) (reading : Reading) : Except StoreError ChangeSet :=
  match reading.state.toRecord? with
  | some record => .ok { changes with readings := changes.readings ++ [record] }
  | none => .error (.uninitialized "SensorReading")

/-- Stages the save of an alert with its pending events applied, which must have been raised. -/
def saveAlert (changes : ChangeSet) (alert : Alert) : Except StoreError ChangeSet :=
  match alert.state.toRecord? with
  | some record =>
    .ok { changes with
      alerts := changes.alerts ++ [⟨record, alert.version, alert.pendingVersion⟩] }
  | none => .error (.uninitialized "Alert")

def writeSensor (changes : ChangeSet) (write : SnapshotWrite SensorSnapshot .sensor) : ChangeSet :=
  { changes with sensors := changes.sensors ++ [write] }

def writeOwner (changes : ChangeSet) (write : SnapshotWrite OwnerSnapshot .owner) : ChangeSet :=
  { changes with owners := changes.owners ++ [write] }

def enqueue (changes : ChangeSet) (entry : OutboxEntry) : ChangeSet :=
  { changes with outbox := changes.outbox ++ [entry] }

/-- The number of staged writes, outbox entries included. -/
def size (changes : ChangeSet) : Nat :=
  changes.readings.length + changes.alerts.length + changes.sensors.length
    + changes.owners.length + changes.outbox.length

def isEmpty (changes : ChangeSet) : Bool := changes.size = 0

end ChangeSet
end Fieldwatch
