import Fieldwatch.Database.Schema
import Fieldwatch.Database.Table

/-!
# The store in a database

A store that keeps its tables in a database, reached over a connection. A commit is one
transaction: one statement for each staged write, in a fixed order, and the first failure gives up
all of it.
-/
namespace Fieldwatch.Database

structure Reply where
  /-- The rows it read. -/
  rows : List Row := []
  /-- How many rows it wrote. -/
  affected : Nat := 0

class Connection (γ : Type) where
  /-- Runs the scripts that were not run before, each of which creates tables. -/
  install (scripts : List (List TableShape)) : Access γ Unit
  /-- Opens a transaction. -/
  start : Access γ Unit
  /-- Makes the transaction lasting. -/
  commit : Access γ Unit
  /-- Gives the transaction up. -/
  rollback : StateM γ Unit
  /-- Sends a statement. -/
  send (statement : Statement) : Access γ Reply

variable {γ : Type} [Connection γ]

def migrate : Access γ Unit := Connection.install Schema.scripts

/-! ## Reads -/

/-- Reads every row that a statement brings back. -/
def queryAll {α : Type} [Table α] (statement : Statement) : Access γ (List α) := do
  let reply ← Connection.send statement
  reply.rows.mapM fun row => liftM (Table.ofRow row : Except StoreError α)

/-- Reads the first row that a statement brings back, if there is one. -/
def queryFirst {α : Type} [Table α] (statement : Statement) : Access γ (Option α) := do
  let reply ← Connection.send statement
  reply.rows.head?.mapM fun row => liftM (Table.ofRow row : Except StoreError α)

/-- Reads the first column of the first row that a statement brings back, if there is one. -/
def queryValue {α : Type} [Column α] (statement : Statement) : Access γ (Option α) := do
  let reply ← Connection.send statement
  reply.rows.head?.mapM fun row => liftM (row.first α)

def execute (statement : Statement) : Access γ Nat := do
  return (← Connection.send statement).affected

/-! ## Commit -/

/-- Runs statements in a transaction, which is given up at the first failure. -/
def transaction {α : Type} (body : Access γ α) : Access γ α := do
  Connection.start
  try
    let result ← body
    Connection.commit
    return result
  catch error =>
    (Connection.rollback : StateM γ Unit)
    throw error

/-- Sends statements in order, and adds up how many rows they wrote. -/
def executeAll : List Statement → Access γ Nat
  | [] => return 0
  | statement :: rest => do
    let affected ← execute statement
    return affected + (← executeAll rest)

/-- Saves alerts in order. A save that wrote nothing was made from a stale copy. -/
def saveAlerts : List AlertWrite → Access γ Unit
  | [] => return ()
  | write :: rest => do
    if (← execute (saveAlert write)) = 0 then
      let version : Option Int64 ← queryValue (selectVersion write.record.id)
      throw (.conflict write.record.id write.expected (version.getD 0).toInt)
    saveAlerts rest

def writeAll (changes : ChangeSet) : Access γ CommitReceipt := do
  let readings ← executeAll (changes.readings.map insert)
  saveAlerts changes.alerts
  let sensors ← executeAll (changes.sensors.map writeSnapshot)
  let owners ← executeAll (changes.owners.map writeSnapshot)
  let outboxEntries ← executeAll (changes.outbox.map insertEntry)
  return { writes := readings + changes.alerts.length + sensors + owners, outboxEntries }

/-! ## The outbox -/

/-- Marks an entry as published; there must be such an entry. -/
def markPublished (id : EntryId) (now : Instant) : Access γ Unit := do
  if (← execute (updatePublished id now)) = 0 then throw (.entryNotFound id)

/-- Marks an entry as refused and answers its status; there must be such an entry. -/
def markFailed (id : EntryId) (reason : String) (now : Instant) : Access γ OutboxStatus := do
  let status : Option String ← queryValue (updateFailed id reason now)
  match status with
  | some status => outboxStatus status
  | none => throw (.entryNotFound id)

/-- Drops the entries published before the retention. -/
def prune (retention : Nat) (now : Instant) : Access γ Nat :=
  match retentionCutoff retention now with
  | some cutoff => execute (deletePublished cutoff)
  | none => return 0

instance : Backend γ where
  commit changes := transaction (writeAll changes)
  getSensor id liveness := queryFirst (selectLive SensorSnapshot id liveness)
  getSensors ids liveness := queryAll (selectAllLive SensorSnapshot ids liveness)
  getOwner id liveness := queryFirst (selectLive OwnerSnapshot id liveness)
  getOwners ids liveness := queryAll (selectAllLive OwnerSnapshot ids liveness)
  getReading id := queryFirst (selectById ReadingRecord id)
  queryReadings query := queryAll (selectReadings query)
  getAlert id := do
    let found : Option StoredAlert ← queryFirst (selectById StoredAlert id)
    return found.map fun alert => Alert.restore alert.record alert.version
  alertsForSensor id := do
    let found : List StoredAlert ← queryAll (selectAlerts id)
    return found.map StoredAlert.record
  fetchUnpublished limit maxAttempts := queryAll (selectUnpublished limit maxAttempts)
  markPublished := markPublished
  markFailed := markFailed
  prunePublished := prune

end Fieldwatch.Database
