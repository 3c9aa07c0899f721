import Fieldwatch.Alert.Grade

/-!
# Alert events

What happens to an alert: it is raised, acknowledged and resolved, each with what was known at the
time.
-/
namespace Fieldwatch

structure NewAlert where
  sensorId : SensorId
  kind : AlertKind
  severity : Severity
  message : String
  value : Option Double
  threshold : Option Double
  deriving DecidableEq

structure AlertRaised where
  alertId : EntityId
  sensorId : SensorId
  kind : AlertKind
  severity : Severity
  message : String
  /-- The observed value that set it off. -/
  value : Option Double
  /-- The threshold that was crossed. -/
  threshold : Option Double
  raisedAt : Instant
  deriving DecidableEq

/-- The fact that an operator has seen an alert. -/
structure AlertAcknowledged where
  alertId : EntityId
  acknowledgedBy : Option OwnerId
  acknowledgedAt : Instant
  deriving DecidableEq

/-- The fact that an alert was dealt with. -/
structure AlertResolved where
  alertId : EntityId
  resolvedBy : Option OwnerId
  notes : Option String
  resolvedAt : Instant
  deriving DecidableEq

/-- What can happen to an alert. -/
inductive AlertEvent
  | raised (data : AlertRaised)
  | acknowledged (data : AlertAcknowledged)
  | resolved (data : AlertResolved)
  deriving DecidableEq

namespace AlertEvent

def name : AlertEvent → String
  | raised _ => "AlertRaised"
  | acknowledged _ => "AlertAcknowledged"
  | resolved _ => "AlertResolved"

def occurredOn : AlertEvent → Instant
  | raised data => data.raisedAt
  | acknowledged data => data.acknowledgedAt
  | resolved data => data.resolvedAt

def alertId : AlertEvent → EntityId
  | raised data => data.alertId
  | acknowledged data => data.alertId
  | resolved data => data.alertId

end AlertEvent

/-! ## JSON forms -/

instance : Json.Wire NewAlert where
  encode alert := .record
    [("sensor_id", Json.encode alert.sensorId), ("kind", Json.encode alert.kind),
      ("severity", Json.encode alert.severity), ("message", Json.encode alert.message),
      ("value", Json.encode alert.value), ("threshold", Json.encode alert.threshold)]
  decode := Json.Record.decode (NewAlert.mk <$> .required "sensor_id" <*> .required "kind"
    <*> .required "severity" <*> .required "message" <*> .optional "value"
    <*> .optional "threshold") "NewAlert"

instance : Json.Wire AlertRaised where
  encode data := .record
    [("alert_id", Json.encode data.alertId), ("sensor_id", Json.encode data.sensorId),
      ("kind", Json.encode data.kind), ("severity", Json.encode data.severity),
      ("message", Json.encode data.message), ("value", Json.encode data.value),
      ("threshold", Json.encode data.threshold), ("raised_at", Json.encode data.raisedAt)]
  decode := Json.Record.decode (AlertRaised.mk <$> .required "alert_id" <*> .required "sensor_id"
    <*> .required "kind" <*> .required "severity" <*> .required "message" <*> .optional "value"
    <*> .optional "threshold" <*> .required "raised_at") "AlertRaisedData"

instance : Json.Wire AlertAcknowledged where
  encode data := .record
    [("alert_id", Json.encode data.alertId),
      ("acknowledged_by", Json.encode data.acknowledgedBy),
      ("acknowledged_at", Json.encode data.acknowledgedAt)]
  decode := Json.Record.decode (AlertAcknowledged.mk <$> .required "alert_id"
    <*> .optional "acknowledged_by" <*> .required "acknowledged_at") "AlertAcknowledgedData"

instance : Json.Wire AlertResolved where
  encode data := .record
    [("alert_id", Json.encode data.alertId), ("resolved_by", Json.encode data.resolvedBy),
      ("notes", Json.encode data.notes), ("resolved_at", Json.encode data.resolvedAt)]
  decode := Json.Record.decode (AlertResolved.mk <$> .required "alert_id"
    <*> .optional "resolved_by" <*> .optional "notes" <*> .required "resolved_at")
    "AlertResolvedData"

instance : Json.Wire AlertEvent where
  encode
    | .raised data => Json.tagged "Raised" (Json.encode data)
    | .acknowledged data => Json.tagged "Acknowledged" (Json.encode data)
    | .resolved data => Json.tagged "Resolved" (Json.encode data)
  decode := Json.decodeTagged "AlertEvent"
    [("Raised", fun place data => (Json.Wire.decode place data).map .raised),
      ("Acknowledged", fun place data => (Json.Wire.decode place data).map .acknowledged),
      ("Resolved", fun place data => (Json.Wire.decode place data).map .resolved)]

end Fieldwatch
