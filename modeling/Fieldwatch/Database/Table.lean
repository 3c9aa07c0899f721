import Fieldwatch.Database.Statement
import Fieldwatch.Store.Backend

/-!
# Tables

How each thing is kept in its table: the columns that are written, and how a row is read back,
column by column. The first column that cannot be read decides the error.
-/
namespace Fieldwatch.Database

/-- A type whose values are rows of a table. -/
class Table (α : Type) where
  /-- The name of the table. -/
  name : String
  /-- The columns that are read. -/
  columns : List String
  /-- The columns that are written. -/
  toRow : α → Row
  ofRow : Row → Except StoreError α

instance : Table SensorSnapshot where
  name := "sensor_snapshots"
  columns := ["id", "owner_id", "property_id", "plot_id", "label", "plot_name", "property_name",
    "status", "status_reason", "last_status_change_at", "is_active", "created_at", "updated_at"]
  toRow sensor :=
    [("id", toValue sensor.id), ("owner_id", toValue sensor.ownerId),
      ("property_id", toValue sensor.propertyId), ("plot_id", toValue sensor.plotId),
      ("label", toValue sensor.label), ("plot_name", toValue sensor.plotName),
      ("property_name", toValue sensor.propertyName), ("status", toValue sensor.status.name),
      ("status_reason", toValue sensor.statusReason),
      ("last_status_change_at", toValue sensor.lastStatusChangeAt),
      ("is_active", toValue sensor.isActive), ("created_at", toValue sensor.createdAt),
      ("updated_at", toValue sensor.updatedAt)]
  ofRow row := do
    return {
      id := ← row.get "id"
      ownerId := ← row.get "owner_id"
      propertyId := ← row.get "property_id"
      plotId := ← row.get "plot_id"
      label := ← row.get "label"
      plotName := ← row.get "plot_name"
      propertyName := ← row.get "property_name"
      status := ← row.getNamed SensorStatus.ofText "status"
      statusReason := ← row.get "status_reason"
      lastStatusChangeAt := ← row.get "last_status_change_at"
      isActive := ← row.get "is_active"
      createdAt := ← row.get "created_at"
      updatedAt := ← row.get "updated_at" }

instance : Table OwnerSnapshot where
  name := "owner_snapshots"
  columns := ["id", "name", "email", "role", "is_active", "created_at", "updated_at",
    "last_changed_at"]
  toRow owner :=
    [("id", toValue owner.id), ("name", toValue owner.name), ("email", toValue owner.email),
      ("role", toValue owner.role), ("is_active", toValue owner.isActive),
      ("created_at", toValue owner.createdAt), ("updated_at", toValue owner.updatedAt),
      ("last_changed_at", toValue owner.lastChangedAt)]
  ofRow row := do
    return {
      id := ← row.get "id"
      name := ← row.get "name"
      email := ← row.get "email"
      role := ← row.get "role"
      isActive := ← row.get "is_active"
      createdAt := ← row.get "created_at"
      updatedAt := ← row.get "updated_at"
      lastChangedAt := ← row.get "last_changed_at" }

instance : Table ReadingRecord where
  name := "sensor_readings"
  columns := ["id", "sensor_id", "time", "temperature", "humidity", "soil_moisture", "rainfall",
    "battery_level", "recorded_at"]
  toRow reading :=
    [("id", toValue reading.id), ("sensor_id", toValue reading.sensorId),
      ("time", toValue reading.time), ("temperature", toValue reading.metrics.temperature),
      ("humidity", toValue reading.metrics.humidity),
      ("soil_moisture", toValue reading.metrics.soilMoisture),
      ("rainfall", toValue reading.metrics.rainfall),
      ("battery_level", toValue reading.metrics.batteryLevel),
      ("recorded_at", toValue reading.recordedAt)]
  ofRow row := do
    return {
      id := ← row.get "id"
      sensorId := ← row.get "sensor_id"
      time := ← row.get "time"
      metrics := {
        temperature := ← row.get "temperature"
        humidity := ← row.get "humidity"
        soilMoisture := ← row.get "soil_moisture"
        rainfall := ← row.get "rainfall"
        batteryLevel := ← row.get "battery_level" }
      recordedAt := ← row.get "recorded_at" }

instance : Table StoredAlert where
  name := "alerts"
  columns := ["id", "sensor_id", "kind", "severity", "message", "value", "threshold", "status",
    "raised_at", "acknowledged_at", "acknowledged_by", "resolved_at", "resolved_by",
    "resolution_notes", "version"]
  toRow alert :=
    let record := alert.record
    [("id", toValue record.id), ("sensor_id", toValue record.sensorId),
      ("kind", toValue record.kind.name), ("severity", toValue record.severity.name),
      ("message", toValue record.message), ("value", toValue record.value),
      ("threshold", toValue record.threshold), ("status", toValue record.status.name),
      ("raised_at", toValue record.raisedAt), ("acknowledged_at", toValue record.acknowledgedAt),
      ("acknowledged_by", toValue record.acknowledgedBy),
      ("resolved_at", toValue record.resolvedAt), ("resolved_by", toValue record.resolvedBy),
      ("resolution_notes", toValue record.resolutionNotes),
      ("version", toValue (Int64.ofInt alert.version))]
  ofRow row := do
    let record : AlertRecord := {
      id := ← row.get "id"
      sensorId := ← row.get "sensor_id"
      kind := ← row.getNamed AlertKind.ofText "kind"
      severity := ← row.getNamed Severity.ofText "severity"
      message := ← row.get "message"
      value := ← row.get "value"
      threshold := ← row.get "threshold"
      status := ← row.getNamed AlertStatus.ofText "status"
      raisedAt := ← row.get "raised_at"
      acknowledgedAt := ← row.get "acknowledged_at"
      acknowledgedBy := ← row.get "acknowledged_by"
      resolvedAt := ← row.get "resolved_at"
      resolvedBy := ← row.get "resolved_by"
      resolutionNotes := ← row.get "resolution_notes" }
    let version : Int64 ← row.get "version"
    return ⟨record, version.toInt⟩

def outboxStatus (text : String) : Except StoreError OutboxStatus :=
  match OutboxStatus.ofText? text with
  | some status => .ok status
  | none => .error (.invalidRecord ("outbox status: " ++ text))

def envelopeOf (value : Json) : Except StoreError Envelope :=
  (Json.decode Envelope value).mapError .unreadable

/-- Only what a new entry holds is written. A negative number of attempts is read as none. -/
instance : Table OutboxEntry where
  name := "outbox"
  columns := ["id", "envelope", "status", "created_at", "processed_at", "attempts", "last_error"]
  toRow entry :=
    [("id", toValue entry.id), ("event_id", toValue entry.envelope.eventId),
      ("event_type", toValue entry.envelope.eventType),
      ("envelope", toValue (Json.encode entry.envelope)), ("status", toValue entry.status.name),
      ("created_at", toValue entry.createdAt), ("attempts", toValue entry.attempts.toInt32)]
  ofRow row := do
    let status : String ← row.get "status"
    let attempts : Int32 ← row.get "attempts"
    return {
      id := ← row.get "id"
      envelope := ← envelopeOf (← row.get "envelope")
      status := ← outboxStatus status
      createdAt := ← row.get "created_at"
      processedAt := ← row.get "processed_at"
      attempts := (max attempts 0).toUInt32
      lastError := ← row.get "last_error" }

/-! ## Reads -/

section
variable (α : Type) [Table α]

/-- Reads the rows that meet a condition. -/
def select (condition : String) (params : List Value) : Statement :=
  .select (Table.name α) (Table.columns α) condition params

def selectById {kind : IdKind} (id : Id kind) : Statement :=
  select α ("id = " ++ placeholder 1) [toValue id]

/-- Reads the row of an identifier, if its liveness is the one asked for. -/
def selectLive {kind : IdKind} (id : Id kind) (liveness : Liveness) : Statement :=
  select α ("id = " ++ placeholder 1 ++ " AND (" ++ placeholder 2 ++ " OR is_active)")
    [toValue id, toValue liveness.includesInactive]

/-- Reads the rows of some identifiers whose liveness is the one asked for. -/
def selectAllLive {kind : IdKind} (ids : List (Id kind)) (liveness : Liveness) : Statement :=
  select α ("id = ANY(" ++ placeholder 1 ++ ") AND (" ++ placeholder 2 ++ " OR is_active)")
    [.uuids (ids.map Id.value), toValue liveness.includesInactive]

end

/-! ## Readings wanted -/

/-- The text that asks for readings: one clause for each field of the query that is set, and the
parameters numbered as the clauses come. -/
def readingsText (query : ReadingQuery) : String :=
  let asked := (⟨(select ReadingRecord "1=1" []).text, 1⟩ : Draft)
    |>.ask " AND sensor_id = " query.sensorId
    |>.ask " AND time >= " query.earliest
    |>.ask " AND time <= " query.latest
  let ordered := asked.say " ORDER BY time ASC, recorded_at ASC"
  (ordered.ask " LIMIT " query.limit |>.ask " OFFSET " query.offset).text

/-- What is bound to the parameters, one value after the other. -/
def readingsParams (query : ReadingQuery) : List Value :=
  []
    |> bindField query.sensorId
    |> bindField query.earliest
    |> bindField query.latest
    |> bindField (query.limit.map UInt64.toInt64)
    |> bindField (query.offset.map UInt64.toInt64)

/-- Reads the readings that a query asks for, by time and then by when they were recorded. -/
def selectReadings (query : ReadingQuery) : Statement where
  text := readingsText query
  params := readingsParams query

/-- Reads the alerts of a sensor, the newest first. -/
def selectAlerts (id : SensorId) : Statement :=
  select StoredAlert ("sensor_id = " ++ placeholder 1 ++ " ORDER BY raised_at DESC") [toValue id]

/-- Reads the version an alert is stored at. -/
def selectVersion (id : EntityId) : Statement :=
  .select (Table.name StoredAlert) ["version"] ("id = " ++ placeholder 1) [toValue id]

/-! ## Writes -/

/-- Adds a row, unless its identifier is taken. -/
def insert {α : Type} [Table α] (value : α) : Statement :=
  .insert (Table.name α) (Table.toRow value) "id"

/-- Overwrites the row of the same identifier. -/
def update {α : Type} [Table α] (value : α) : Statement :=
  .update (Table.name α) (Table.toRow value)

/-- Saves an alert, if its stored version is the one expected. -/
def saveAlert (write : AlertWrite) : Statement :=
  let alert : StoredAlert := ⟨write.record, write.next⟩
  if write.expected = 0 then insert alert
  else (update alert).whenEqual "version" (toValue (Int64.ofInt write.expected))

/-- A table of snapshots, whose rows are retired and not removed. -/
class SnapshotTable (σ : Type) (kind : outParam IdKind) extends Table σ where
  /-- Retires the row of an identifier, unless it is retired already. -/
  retire : Id kind → (occurredOn now : Instant) → Statement

instance : SnapshotTable SensorSnapshot .sensor where
  retire id occurredOn now := {
    text := "UPDATE sensor_snapshots SET status = 'Inactive', status_reason = NULL, "
      ++ "is_active = FALSE, last_status_change_at = $2, updated_at = $3 "
      ++ "WHERE id = $1 AND (is_active OR status <> 'Inactive')"
    params := [toValue id, toValue occurredOn, toValue now] }

instance : SnapshotTable OwnerSnapshot .owner where
  retire id occurredOn now := {
    text := "UPDATE owner_snapshots SET is_active = FALSE, last_changed_at = $2, updated_at = $3 "
      ++ "WHERE id = $1 AND is_active"
    params := [toValue id, toValue occurredOn, toValue now] }

/-- Makes a staged write to a table of snapshots. -/
def writeSnapshot {σ : Type} {kind : IdKind} [SnapshotTable σ kind] :
    SnapshotWrite σ kind → Statement
  | .add snapshot => insert snapshot
  | .update snapshot => update snapshot
  | .delete id occurredOn now => SnapshotTable.retire σ id occurredOn now

/-! ## The outbox -/

/-- Adds an entry, unless there is one of the same event. -/
def insertEntry (entry : OutboxEntry) : Statement :=
  .insert (Table.name OutboxEntry) (Table.toRow entry) "event_id"

/-- Reads the first entries still to be published, in the order in which they were staged. -/
def selectUnpublished (limit : UInt64) (maxAttempts : UInt32) : Statement :=
  select OutboxEntry
    "status <> 'published' AND attempts < $2 ORDER BY created_at ASC, seq ASC LIMIT $1"
    [toValue limit.toInt64, toValue maxAttempts.toInt32]

def updatePublished (id : EntryId) (now : Instant) : Statement where
  text := "UPDATE outbox SET status = 'published', processed_at = $2, attempts = attempts + 1 "
    ++ "WHERE id = $1"
  params := [toValue id, toValue now]

/-- Marks an entry as refused and reads its status. -/
def updateFailed (id : EntryId) (reason : String) (now : Instant) : Statement where
  text := "UPDATE outbox SET status = 'failed', processed_at = $2, attempts = attempts + 1, "
    ++ "last_error = $3 WHERE id = $1 RETURNING status"
  params := [toValue id, toValue now, toValue reason]

/-- Drops the entries published before a moment. -/
def deletePublished (cutoff : Instant) : Statement where
  text := "DELETE FROM outbox WHERE status = 'published' AND processed_at < $1"
  params := [toValue cutoff]

end Fieldwatch.Database
