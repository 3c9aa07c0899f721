import Fieldwatch.Store.Backend

/-!
# The store in memory

Tables as lists, each row under its own identifier, in the order in which rows came. A commit is
checked as a whole against the tables as they stand, and then applied as a whole. An event is
staged once as long as its identifier is remembered, which is as long as its entry is kept.
-/
namespace Fieldwatch

structure Tables where
  readings : List ReadingRecord := []
  alerts : List StoredAlert := []
  sensors : List SensorSnapshot := []
  owners : List OwnerSnapshot := []
  outbox : List OutboxEntry := []
  /-- The identifiers of the events whose entries are kept. -/
  eventIds : List EventId := []
  /-- How many commits succeeded. -/
  commits : Nat := 0
  /-- Whether the next commit fails. -/
  failNextCommit : Bool := false

namespace Tables

def empty : Tables := {}

/-! ## Snapshot rows -/

section Snapshots

variable {σ : Type} {kind : IdKind} [Snapshot σ kind]

def find? (rows : List σ) (id : Id kind) : Option σ :=
  rows.find? fun row => Snapshot.id row = id

/-- The rows with the row of the same identifier overwritten. -/
def overwrite (rows : List σ) (row : σ) : List σ :=
  rows.map fun old => if Snapshot.id old = Snapshot.id row then row else old

/-- The rows after a staged write, or none when it is ignored. -/
def write? (rows : List σ) : SnapshotWrite σ kind → Option (List σ)
  | .add row => if (find? rows (Snapshot.id row)).isSome then none else some (rows ++ [row])
  | .update row => if (find? rows (Snapshot.id row)).isSome then some (overwrite rows row) else none
  | .delete id occurredOn now =>
    ((find? rows id).bind fun row => Snapshot.retire? row occurredOn now).map (overwrite rows)

/-- The rows after staged writes in order, and how many took effect. -/
def writeAll (rows : List σ) (writes : List (SnapshotWrite σ kind)) : List σ × Nat :=
  writes.foldl (fun (rows, count) write =>
    match write? rows write with
    | some rows => (rows, count + 1)
    | none => (rows, count)) (rows, 0)

end Snapshots

/-! ## Commit -/

/-- The version an alert is stored at; zero if it is not. -/
def alertVersion (tables : Tables) (id : EntityId) : Int :=
  ((tables.alerts.find? fun stored => stored.record.id = id).map StoredAlert.version).getD 0

/-- The first save that was made from a stale copy. -/
def conflict? (tables : Tables) (writes : List AlertWrite) : Option StoreError :=
  writes.findSome? fun write =>
    let actual := tables.alertVersion write.record.id
    if actual = write.expected then none
    else some (.conflict write.record.id write.expected actual)

/-- The readings after a staged one, which is ignored if its identifier is taken. -/
def addReading : List ReadingRecord × Nat → ReadingRecord → List ReadingRecord × Nat
  | (rows, count), record =>
    if rows.any fun row => row.id = record.id then (rows, count)
    else (rows ++ [record], count + 1)

def putAlert (rows : List StoredAlert) (write : AlertWrite) : List StoredAlert :=
  let row : StoredAlert := ⟨write.record, write.next⟩
  if rows.any fun old => old.record.id = write.record.id then
    rows.map fun old => if old.record.id = write.record.id then row else old
  else rows ++ [row]

/-- The outbox and the remembered identifiers after a staged entry, which is ignored if its event
is remembered. -/
def addEntry : List OutboxEntry × List EventId × Nat → OutboxEntry →
    List OutboxEntry × List EventId × Nat
  | (outbox, ids, count), entry =>
    if entry.envelope.eventId ∈ ids then (outbox, ids, count)
    else (outbox ++ [entry], ids ++ [entry.envelope.eventId], count + 1)

/-- The tables after a change set that has no conflict, and what was written. -/
def applied (tables : Tables) (changes : ChangeSet) : Tables × CommitReceipt :=
  let (readings, readingWrites) := changes.readings.foldl addReading (tables.readings, 0)
  let (sensors, sensorWrites) := writeAll tables.sensors changes.sensors
  let (owners, ownerWrites) := writeAll tables.owners changes.owners
  let (outbox, eventIds, entries) :=
    changes.outbox.foldl addEntry (tables.outbox, tables.eventIds, 0)
  ({ tables with
      readings, sensors, owners, outbox, eventIds
      alerts := changes.alerts.foldl putAlert tables.alerts
      commits := tables.commits + 1 },
    { writes := readingWrites + changes.alerts.length + sensorWrites + ownerWrites
      outboxEntries := entries })

/-- Commits a change set: all of it, or nothing if the commit was set to fail or a save is stale. -/
def commit (tables : Tables) (changes : ChangeSet) : Except StoreError CommitReceipt × Tables :=
  if tables.failNextCommit then
    (.error (.unavailable "injected commit failure"), { tables with failNextCommit := false })
  else
    match tables.conflict? changes.alerts with
    | some error => (.error error, tables)
    | none =>
      let (tables, receipt) := tables.applied changes
      (.ok receipt, tables)

/-! ## Reads -/

/-- Those of the given identifiers that have a row of the liveness asked for, in their order. -/
def pick {σ : Type} {kind : IdKind} [Snapshot σ kind] (rows : List σ) (ids : List (Id kind))
    (liveness : Liveness) : List σ :=
  (ids.filterMap (find? rows)).filter fun row => liveness.admits (Snapshot.isActive row)

/-- Whether a reading does not come after another, by time and then by when it was recorded. -/
def notAfter (a b : ReadingRecord) : Bool :=
  a.time < b.time || (a.time = b.time && a.recordedAt ≤ b.recordedAt)

/-- The readings wanted, by time and then by when they were recorded. -/
def readingsFor (tables : Tables) (query : ReadingQuery) : List ReadingRecord :=
  query.page ((tables.readings.filter fun row =>
    query.accepts row.sensorId row.time).mergeSort notAfter)

def alert? (tables : Tables) (id : EntityId) : Option Alert :=
  (tables.alerts.find? fun stored => stored.record.id = id).map fun stored =>
    Alert.restore stored.record stored.version

/-- The alerts of a sensor, the newest first. -/
def alertsOf (tables : Tables) (id : SensorId) : List AlertRecord :=
  ((tables.alerts.map StoredAlert.record).filter fun record => record.sensorId = id).mergeSort
    fun a b => b.raisedAt ≤ a.raisedAt

/-! ## Outbox -/

/-- The first entries still to be published, by when they were staged. -/
def unpublished (tables : Tables) (limit : UInt64) (maxAttempts : UInt32) : List OutboxEntry :=
  ((tables.outbox.filter fun entry => entry.isDeliverable maxAttempts).mergeSort
    fun a b => a.createdAt ≤ b.createdAt).take limit.toNat

/-- Changes the first entry of an identifier. -/
def changeFirst (id : EntryId) (change : OutboxEntry → OutboxEntry) :
    List OutboxEntry → List OutboxEntry
  | [] => []
  | entry :: rest =>
    if entry.id = id then change entry :: rest else entry :: changeFirst id change rest

/-- Changes the first entry of an identifier, and answers what became of it. -/
def mark (tables : Tables) (id : EntryId) (change : OutboxEntry → OutboxEntry) :
    Except StoreError OutboxEntry × Tables :=
  match tables.outbox.find? fun entry => entry.id = id with
  | none => (.error (.entryNotFound id), tables)
  | some entry =>
    (.ok (change entry), { tables with outbox := changeFirst id change tables.outbox })

/-- Drops the entries published before the retention, and forgets their events. -/
def prune (tables : Tables) (retention : Nat) (now : Instant) : Nat × Tables :=
  match retentionCutoff retention now with
  | none => (0, tables)
  | some cutoff =>
    let expired := tables.outbox.filter fun entry => entry.publishedBefore cutoff
    (expired.length, { tables with
      outbox := tables.outbox.filter fun entry => !entry.publishedBefore cutoff
      eventIds := tables.eventIds.filter fun id =>
        !expired.any fun entry => entry.envelope.eventId = id })

/-- The store with no rows, counts or switches. -/
def cleared (_ : Tables) : Tables := empty

instance : Backend Tables where
  commit changes := fun tables => tables.commit changes
  getSensor id liveness := fun tables =>
    (.ok ((find? tables.sensors id).filter fun row => liveness.admits row.isActive), tables)
  getSensors ids liveness := fun tables => (.ok (pick tables.sensors ids liveness), tables)
  getOwner id liveness := fun tables =>
    (.ok ((find? tables.owners id).filter fun row => liveness.admits row.isActive), tables)
  getOwners ids liveness := fun tables => (.ok (pick tables.owners ids liveness), tables)
  getReading id := fun tables => (.ok (tables.readings.find? fun row => row.id = id), tables)
  queryReadings query := fun tables => (.ok (tables.readingsFor query), tables)
  getAlert id := fun tables => (.ok (tables.alert? id), tables)
  alertsForSensor id := fun tables => (.ok (tables.alertsOf id), tables)
  fetchUnpublished limit maxAttempts := fun tables =>
    (.ok (tables.unpublished limit maxAttempts), tables)
  markPublished id now := fun tables =>
    let (result, tables) := tables.mark id (·.markPublished now)
    (result.map fun _ => (), tables)
  markFailed id reason now := fun tables =>
    let (result, tables) := tables.mark id (·.markFailed reason now)
    (result.map OutboxEntry.status, tables)
  prunePublished retention now := fun tables =>
    let (count, tables) := tables.prune retention now
    (.ok count, tables)

end Tables
end Fieldwatch
