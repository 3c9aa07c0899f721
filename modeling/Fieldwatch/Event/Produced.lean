import Fieldwatch.Event.Integration

/-!
# Produced events

The integration events that the service publishes. Field names are part of the contract: unknown
fields are skipped, and a field that may be absent reads as none.
-/
namespace Fieldwatch.Event

structure SensorIngested where
  eventId : EventId
  occurredOn : Instant
  sensorReadingId : EntityId
  sensorId : SensorId
  time : Instant
  temperature : Option Double
  humidity : Option Double
  soilMoisture : Option Double
  rainfall : Option Double
  batteryLevel : Option Double
  deriving DecidableEq

instance : IntegrationEvent SensorIngested where
  encode event := .record
    [("event_id", Json.encode event.eventId), ("occurred_on", Json.encode event.occurredOn),
      ("sensor_reading_id", Json.encode event.sensorReadingId),
      ("sensor_id", Json.encode event.sensorId), ("time", Json.encode event.time),
      ("temperature", Json.encode event.temperature), ("humidity", Json.encode event.humidity),
      ("soil_moisture", Json.encode event.soilMoisture), ("rainfall", Json.encode event.rainfall),
      ("battery_level", Json.encode event.batteryLevel)]
  decode := Json.Record.decode (SensorIngested.mk <$> .required "event_id"
    <*> .required "occurred_on" <*> .required "sensor_reading_id" <*> .required "sensor_id"
    <*> .required "time" <*> .optional "temperature" <*> .optional "humidity"
    <*> .optional "soil_moisture" <*> .optional "rainfall" <*> .optional "battery_level")
    "SensorIngested"
  eventType := "SensorIngested"
  eventId event := event.eventId
  occurredOn event := event.occurredOn
  aggregateId event := event.sensorReadingId

/-- An alert was raised against a sensor. -/
structure AlertRaised where
  eventId : EventId
  occurredOn : Instant
  alertId : EntityId
  sensorId : SensorId
  kind : String
  severity : String
  message : String
  value : Option Double
  threshold : Option Double
  deriving DecidableEq

instance : IntegrationEvent AlertRaised where
  encode event := .record
    [("event_id", Json.encode event.eventId), ("occurred_on", Json.encode event.occurredOn),
      ("alert_id", Json.encode event.alertId), ("sensor_id", Json.encode event.sensorId),
      ("kind", Json.encode event.kind), ("severity", Json.encode event.severity),
      ("message", Json.encode event.message), ("value", Json.encode event.value),
      ("threshold", Json.encode event.threshold)]
  decode := Json.Record.decode (AlertRaised.mk <$> .required "event_id"
    <*> .required "occurred_on" <*> .required "alert_id" <*> .required "sensor_id"
    <*> .required "kind" <*> .required "severity" <*> .required "message" <*> .optional "value"
    <*> .optional "threshold") "AlertRaised"
  eventType := "AlertRaised"
  eventId event := event.eventId
  occurredOn event := event.occurredOn
  aggregateId event := event.alertId

structure AlertAcknowledged where
  eventId : EventId
  occurredOn : Instant
  alertId : EntityId
  sensorId : SensorId
  acknowledgedBy : Option OwnerId
  deriving DecidableEq

instance : IntegrationEvent AlertAcknowledged where
  encode event := .record
    [("event_id", Json.encode event.eventId), ("occurred_on", Json.encode event.occurredOn),
      ("alert_id", Json.encode event.alertId), ("sensor_id", Json.encode event.sensorId),
      ("acknowledged_by", Json.encode event.acknowledgedBy)]
  decode := Json.Record.decode (AlertAcknowledged.mk <$> .required "event_id"
    <*> .required "occurred_on" <*> .required "alert_id" <*> .required "sensor_id"
    <*> .optional "acknowledged_by") "AlertAcknowledged"
  eventType := "AlertAcknowledged"
  eventId event := event.eventId
  occurredOn event := event.occurredOn
  aggregateId event := event.alertId

structure AlertResolved where
  eventId : EventId
  occurredOn : Instant
  alertId : EntityId
  sensorId : SensorId
  resolvedBy : Option OwnerId
  notes : Option String
  deriving DecidableEq

instance : IntegrationEvent AlertResolved where
  encode event := .record
    [("event_id", Json.encode event.eventId), ("occurred_on", Json.encode event.occurredOn),
      ("alert_id", Json.encode event.alertId), ("sensor_id", Json.encode event.sensorId),
      ("resolved_by", Json.encode event.resolvedBy), ("notes", Json.encode event.notes)]
  decode := Json.Record.decode (AlertResolved.mk <$> .required "event_id"
    <*> .required "occurred_on" <*> .required "alert_id" <*> .required "sensor_id"
    <*> .optional "resolved_by" <*> .optional "notes") "AlertResolved"
  eventType := "AlertResolved"
  eventId event := event.eventId
  occurredOn event := event.occurredOn
  aggregateId event := event.alertId

end Fieldwatch.Event
