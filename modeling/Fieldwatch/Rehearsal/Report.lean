import Fieldwatch.Broker.Basic
import Fieldwatch.Endpoint
import Fieldwatch.Inbox.Outcome
import Fieldwatch.Ingest.Error
import Fieldwatch.Settings.Basic

/-!
# Reports

What a transcript shows of errors and of the state of readings and alerts. An error is an object
with its kind and its wording; numbers with a fraction are written out in full.
-/
namespace Fieldwatch.Rehearsal

abbrev Answer (α : Type) := Except Json α

class Reported (ε : Type) where
  report : ε → Json

export Reported (report)

def errorReport (kind message : String) (more : List (String × Json)) : Json :=
  .record ([("error", .str kind), ("message", .str message)] ++ more)

/-- The wording of an error without the words of the database, whatever they are. -/
def withoutDetail (message : String) : String :=
  match message.splitOn "Database error" with
  | before :: _ :: _ => before ++ "Database error"
  | _ => message

/-! ## Errors -/

def faultList (faults : Faults) : Json :=
  .arr (faults.toList.map fun fault =>
    .record [("field", .str fault.field), ("message", .str fault.message)])

instance : Reported Json := ⟨id⟩

instance : Reported UnknownName where
  report unknown := errorReport "UnknownVariant" unknown.message
    [("kind", .str unknown.sort), ("value", .str unknown.text)]

instance : Reported Faults where
  report faults := errorReport "ValidationErrors" faults.message [("errors", faultList faults)]

instance : Reported AlertError where
  report error :=
    let kind := match error with
      | .invalidTransition .. => "InvalidStateTransition"
      | .notesTooLong _ => "NotesTooLong"
    errorReport kind error.message [("domain", .str ("Alert error: " ++ error.message))]

instance : Reported EnvelopeError where
  report error :=
    let kind := match error with
      | .missingField _ => "MissingField"
      | .unknownEventType _ => "UnknownEventType"
      | .typeMismatch .. => "TypeMismatch"
      | .unreadable _ => "Serialization"
    errorReport kind error.message []

instance : Reported Json.DecodeError where
  report error := errorReport "Serde" error.message []

instance : Reported StoreError where
  report error :=
    let kind := match error with
      | .conflict .. => "ConcurrencyConflict"
      | .uninitialized _ => "Uninitialized"
      | .invalidRecord _ => "InvalidRecord"
      | .entryNotFound _ => "OutboxEntryNotFound"
      | .unavailable _ => "Unavailable"
      | .database => "Database"
      | .migration _ => "Migration"
      | .unreadable _ => "Serialization"
    errorReport kind (withoutDetail error.message) [("transient", .bool error.isTransient)]

instance : Reported IngestError where
  report error :=
    let kind := match error with
      | .validation _ => "Validation"
      | .sensorNotFound _ => "SensorNotFound"
      | .alertNotFound _ => "AlertNotFound"
      | .alert _ => "Alert"
      | .contract _ => "Contract"
      | .store _ => "Store"
    errorReport kind (withoutDetail error.message)
      [("reason", .str error.reason), ("rejection", .bool error.isRejection)]

instance : Reported InboxError where
  report error := errorReport "InboxError" (withoutDetail error.message)
    [("transient", .bool error.isTransient), ("event_type", .str error.context.eventType),
      ("event_id", Json.encode error.context.eventId),
      ("correlation_id", Json.encode error.context.correlationId),
      ("target_id", Json.encode error.targetId), ("source", report error.cause)]

instance : Reported BrokerError where
  report error :=
    let kind := match error with
      | .publishFailed .. => "PublishFailed"
      | .closed => "Closed"
    errorReport kind error.message []

instance : Reported SettingsError where
  report error := errorReport "ConfigError" error.message
    [("key", .str error.name), ("value", .str error.value), ("reason", .str error.fault.message)]

/-- An error is reported without what stands beside it. -/
instance {ε α : Type} [Reported ε] : Reported (ε × α) := ⟨fun (error, _) => report error⟩

instance errorAlone {ε α β : Type} : CoeOut (Except (ε × α) β) (Except ε β) :=
  ⟨Except.mapError Prod.fst⟩

/-- A result whose error is reported. -/
instance {ε : Type} [Reported ε] : MonadLiftT (Except ε) (Except Json) :=
  ⟨Except.mapError report⟩

/-! ## Values -/

def shown : Json → Json :=
  Json.mapLeaves fun leaf =>
    match leaf with
    | .float value => if value.isFinite then .str ("f64:" ++ Decimal.plain value) else .null
    | _ => leaf

def ofNat (number : Nat) : Json := .int number

def texts (items : List String) : Json := .arr (items.map .str)

def ofOption {α : Type} (show? : α → Json) : Option α → Json
  | some value => show? value
  | none => .null

def trackedEntries {σ ε : Type} [Json.Wire σ] [Json.Wire ε] (type : String)
    (id : Option EntityId) (name : ε → String) (time : ε → Instant) (root : Tracked σ ε) :
    List (String × Json) :=
  [("type", .str type), ("id", Json.encode id), ("state", Json.encode root.state),
    ("version", .int root.version), ("pending_version", .str (toString root.pendingVersion)),
    ("has_uncommitted", .bool root.hasPending),
    ("events", .arr (root.pending.map fun event =>
      .record [("name", .str (name event)), ("at", Json.encode (time event)),
        ("event", Json.encode event)]))]

def alertEntries (alert : Alert) : List (String × Json) :=
  trackedEntries "Alert" alert.state.id AlertEvent.name AlertEvent.occurredOn alert
    ++ [("status", Json.encode alert.state.status),
      ("record", Json.encode alert.state.toRecord?)]

def alertView (alert : Alert) : Json := .record (alertEntries alert)

def readingView (reading : Reading) : Json :=
  let state := reading.state
  let record := state.toRecord?
  .record (trackedEntries "SensorReading" state.id ReadingEvent.name ReadingEvent.occurredOn reading
    ++ [("metric_count", ofNat state.metrics.count),
      ("metrics_empty", .bool state.metrics.isEmpty),
      ("sensor_id", Json.encode state.sensorId), ("time", Json.encode state.time),
      ("recorded_at", Json.encode state.recordedAt), ("record", Json.encode record),
      ("committed_version", .int reading.committed.version),
      ("restores_equal", ofOption (fun record => .bool ((Reading.restore record).state = state))
        record)])

def outcomeEntries (outcome : Outcome) : List (String × Json) :=
  [("outcome", .str outcome.label), ("is_write", .bool outcome.isWrite),
    ("display", .str outcome.text)]

def responseView (response : Endpoint.Response) : Json :=
  .record [("status", ofNat response.status),
    ("content_type", ofOption .str response.contentType),
    ("body", match response.body with
      | .empty => .arr []
      | .json value => value
      | .lines samples => texts samples)]

def settingsView (settings : Settings) : Json :=
  .record [("addr", .str settings.address), ("host", .str settings.host),
    ("port", Json.encode settings.port), ("log_level", .str settings.logDirectives),
    ("log_format", .str (match settings.logFormat with | .text => "Text" | .json => "Json")),
    ("database_url", Json.encode settings.databaseUrl),
    ("database_max_connections", Json.encode settings.maxConnections),
    ("staleness_tolerance_secs", ofNat settings.toleranceSeconds.toNat),
    ("outbox_poll_interval_ms", ofNat settings.pollMillis.toNat),
    ("outbox_batch_size", ofNat settings.batchSize.toNat),
    ("outbox_retention_secs", ofNat settings.retentionSeconds.toNat),
    ("broker_max_attempts", Json.encode settings.maxDeliveryAttempts),
    ("broker_retry_backoff_ms", ofNat settings.retryBackoffMillis.toNat),
    ("is_default", .bool (settings = {}))]

end Fieldwatch.Rehearsal
