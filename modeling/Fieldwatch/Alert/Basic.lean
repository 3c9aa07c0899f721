import Fieldwatch.Alert.Event
import Fieldwatch.Tracked

/-!
# Alerts

An alert is raised against a sensor, then acknowledged and resolved. Its state is made by those
events alone; its record is the flat form that is stored.
-/
namespace Fieldwatch

/-- The state of an alert: nothing until it is raised. -/
structure AlertState where
  id : Option EntityId
  sensorId : Option SensorId
  kind : Option AlertKind
  severity : Option Severity
  message : String
  value : Option Double
  threshold : Option Double
  status : AlertStatus
  raisedAt : Option Instant
  acknowledgedAt : Option Instant
  acknowledgedBy : Option OwnerId
  resolvedAt : Option Instant
  resolvedBy : Option OwnerId
  resolutionNotes : Option String
  deriving DecidableEq

structure AlertRecord where
  id : EntityId
  sensorId : SensorId
  kind : AlertKind
  severity : Severity
  message : String
  value : Option Double
  threshold : Option Double
  status : AlertStatus
  raisedAt : Instant
  acknowledgedAt : Option Instant
  acknowledgedBy : Option OwnerId
  resolvedAt : Option Instant
  resolvedBy : Option OwnerId
  resolutionNotes : Option String
  deriving DecidableEq

/-- An alert with its version and pending events. -/
abbrev Alert := Tracked AlertState AlertEvent

namespace AlertState

def empty : AlertState :=
  ⟨none, none, none, none, "", none, none, .pending, none, none, none, none, none, none⟩

def apply (state : AlertState) : AlertEvent → AlertState
  | .raised data =>
    { state with
      id := some data.alertId, sensorId := some data.sensorId, kind := some data.kind
      severity := some data.severity, message := data.message, value := data.value
      threshold := data.threshold, status := .pending, raisedAt := some data.raisedAt }
  | .acknowledged data =>
    { state with
      status := .acknowledged, acknowledgedAt := some data.acknowledgedAt
      acknowledgedBy := data.acknowledgedBy }
  | .resolved data =>
    { state with
      status := .resolved, resolvedAt := some data.resolvedAt, resolvedBy := data.resolvedBy
      resolutionNotes := data.notes }

instance : EventSourced AlertState AlertEvent where
  empty := empty
  apply := apply

/-- The stored form, if the alert was raised. -/
def toRecord? (state : AlertState) : Option AlertRecord := do
  return {
    id := ← state.id
    sensorId := ← state.sensorId
    kind := ← state.kind
    severity := ← state.severity
    message := state.message
    value := state.value
    threshold := state.threshold
    status := state.status
    raisedAt := ← state.raisedAt
    acknowledgedAt := state.acknowledgedAt
    acknowledgedBy := state.acknowledgedBy
    resolvedAt := state.resolvedAt
    resolvedBy := state.resolvedBy
    resolutionNotes := state.resolutionNotes }

end AlertState

/-! ## JSON forms -/

instance : Json.Wire AlertState where
  encode state := .record
    [("id", Json.encode state.id), ("sensor_id", Json.encode state.sensorId),
      ("kind", Json.encode state.kind), ("severity", Json.encode state.severity),
      ("message", Json.encode state.message), ("value", Json.encode state.value),
      ("threshold", Json.encode state.threshold), ("status", Json.encode state.status),
      ("raised_at", Json.encode state.raisedAt),
      ("acknowledged_at", Json.encode state.acknowledgedAt),
      ("acknowledged_by", Json.encode state.acknowledgedBy),
      ("resolved_at", Json.encode state.resolvedAt),
      ("resolved_by", Json.encode state.resolvedBy),
      ("resolution_notes", Json.encode state.resolutionNotes)]
  decode := Json.Record.decode (AlertState.mk <$> .optional "id" <*> .optional "sensor_id"
    <*> .optional "kind" <*> .optional "severity" <*> .required "message" <*> .optional "value"
    <*> .optional "threshold" <*> .required "status" <*> .optional "raised_at"
    <*> .optional "acknowledged_at" <*> .optional "acknowledged_by" <*> .optional "resolved_at"
    <*> .optional "resolved_by" <*> .optional "resolution_notes") "Alert"

instance : Json.Wire AlertRecord where
  encode alert := .record
    [("id", Json.encode alert.id), ("sensor_id", Json.encode alert.sensorId),
      ("kind", Json.encode alert.kind), ("severity", Json.encode alert.severity),
      ("message", Json.encode alert.message), ("value", Json.encode alert.value),
      ("threshold", Json.encode alert.threshold), ("status", Json.encode alert.status),
      ("raised_at", Json.encode alert.raisedAt),
      ("acknowledged_at", Json.encode alert.acknowledgedAt),
      ("acknowledged_by", Json.encode alert.acknowledgedBy),
      ("resolved_at", Json.encode alert.resolvedAt),
      ("resolved_by", Json.encode alert.resolvedBy),
      ("resolution_notes", Json.encode alert.resolutionNotes)]
  decode := Json.Record.decode (AlertRecord.mk <$> .required "id" <*> .required "sensor_id"
    <*> .required "kind" <*> .required "severity" <*> .required "message" <*> .optional "value"
    <*> .optional "threshold" <*> .required "status" <*> .required "raised_at"
    <*> .optional "acknowledged_at" <*> .optional "acknowledged_by" <*> .optional "resolved_at"
    <*> .optional "resolved_by" <*> .optional "resolution_notes") "AlertRecord"

end Fieldwatch
