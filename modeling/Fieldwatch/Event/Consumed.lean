import Fieldwatch.Event.Integration

/-!
# Consumed events

The integration events of other services that the inbox handles. Field names are part of the
contract: unknown fields are skipped, and a field that may be absent reads as none.
-/
namespace Fieldwatch.Event

/-- The farm service put a sensor on a plot. -/
structure SensorRegistered where
  eventId : EventId
  occurredOn : Instant
  sensorId : SensorId
  ownerId : OwnerId
  propertyId : PropertyId
  plotId : PlotId
  label : Option String
  plotName : String
  propertyName : String
  status : String
  deriving DecidableEq

instance : IntegrationEvent SensorRegistered where
  encode event := .record
    [("event_id", Json.encode event.eventId), ("occurred_on", Json.encode event.occurredOn),
      ("sensor_id", Json.encode event.sensorId), ("owner_id", Json.encode event.ownerId),
      ("property_id", Json.encode event.propertyId), ("plot_id", Json.encode event.plotId),
      ("label", Json.encode event.label), ("plot_name", Json.encode event.plotName),
      ("property_name", Json.encode event.propertyName), ("status", Json.encode event.status)]
  decode := Json.Record.decode (SensorRegistered.mk <$> .required "event_id"
    <*> .required "occurred_on" <*> .required "sensor_id" <*> .required "owner_id"
    <*> .required "property_id" <*> .required "plot_id" <*> .optional "label"
    <*> .required "plot_name" <*> .required "property_name" <*> .required "status")
    "SensorRegistered"
  eventType := "SensorRegistered"
  eventId event := event.eventId
  occurredOn event := event.occurredOn
  aggregateId event := event.sensorId.cast .entity

/-- The farm service took a sensor out of use. -/
structure SensorDeactivated where
  eventId : EventId
  occurredOn : Instant
  sensorId : SensorId
  plotId : PlotId
  propertyId : PropertyId
  reason : Option String
  deactivatedByUserId : Option OwnerId
  deriving DecidableEq

instance : IntegrationEvent SensorDeactivated where
  encode event := .record
    [("event_id", Json.encode event.eventId), ("occurred_on", Json.encode event.occurredOn),
      ("sensor_id", Json.encode event.sensorId), ("plot_id", Json.encode event.plotId),
      ("property_id", Json.encode event.propertyId), ("reason", Json.encode event.reason),
      ("deactivated_by_user_id", Json.encode event.deactivatedByUserId)]
  decode := Json.Record.decode (SensorDeactivated.mk <$> .required "event_id"
    <*> .required "occurred_on" <*> .required "sensor_id" <*> .required "plot_id"
    <*> .required "property_id" <*> .optional "reason" <*> .optional "deactivated_by_user_id")
    "SensorDeactivated"
  eventType := "SensorDeactivated"
  eventId event := event.eventId
  occurredOn event := event.occurredOn
  aggregateId event := event.sensorId.cast .entity

/-- The farm service changed the status of a sensor. -/
structure SensorOperationalStatusChanged where
  eventId : EventId
  occurredOn : Instant
  sensorId : SensorId
  previousStatus : String
  newStatus : String
  reason : Option String
  changedByUserId : Option OwnerId
  deriving DecidableEq

instance : IntegrationEvent SensorOperationalStatusChanged where
  encode event := .record
    [("event_id", Json.encode event.eventId), ("occurred_on", Json.encode event.occurredOn),
      ("sensor_id", Json.encode event.sensorId),
      ("previous_status", Json.encode event.previousStatus),
      ("new_status", Json.encode event.newStatus), ("reason", Json.encode event.reason),
      ("changed_by_user_id", Json.encode event.changedByUserId)]
  decode := Json.Record.decode (SensorOperationalStatusChanged.mk <$> .required "event_id"
    <*> .required "occurred_on" <*> .required "sensor_id" <*> .required "previous_status"
    <*> .required "new_status" <*> .optional "reason" <*> .optional "changed_by_user_id")
    "SensorOperationalStatusChanged"
  eventType := "SensorOperationalStatusChanged"
  eventId event := event.eventId
  occurredOn event := event.occurredOn
  aggregateId event := event.sensorId.cast .entity

structure UserCreated where
  eventId : EventId
  occurredOn : Instant
  ownerId : OwnerId
  name : String
  email : String
  role : Option String
  deriving DecidableEq

instance : IntegrationEvent UserCreated where
  encode event := .record
    [("event_id", Json.encode event.eventId), ("occurred_on", Json.encode event.occurredOn),
      ("owner_id", Json.encode event.ownerId), ("name", Json.encode event.name),
      ("email", Json.encode event.email), ("role", Json.encode event.role)]
  decode := Json.Record.decode (UserCreated.mk <$> .required "event_id"
    <*> .required "occurred_on" <*> .required "owner_id" <*> .required "name"
    <*> .required "email" <*> .optional "role") "UserCreated"
  eventType := "UserCreated"
  eventId event := event.eventId
  occurredOn event := event.occurredOn
  aggregateId event := event.ownerId.cast .entity

/-- The identity service changed the profile of a user. -/
structure UserUpdated where
  eventId : EventId
  occurredOn : Instant
  ownerId : OwnerId
  name : String
  email : String
  role : Option String
  deriving DecidableEq

instance : IntegrationEvent UserUpdated where
  encode event := .record
    [("event_id", Json.encode event.eventId), ("occurred_on", Json.encode event.occurredOn),
      ("owner_id", Json.encode event.ownerId), ("name", Json.encode event.name),
      ("email", Json.encode event.email), ("role", Json.encode event.role)]
  decode := Json.Record.decode (UserUpdated.mk <$> .required "event_id"
    <*> .required "occurred_on" <*> .required "owner_id" <*> .required "name"
    <*> .required "email" <*> .optional "role") "UserUpdated"
  eventType := "UserUpdated"
  eventId event := event.eventId
  occurredOn event := event.occurredOn
  aggregateId event := event.ownerId.cast .entity

/-- The identity service closed the account of a user. -/
structure UserDeactivated where
  eventId : EventId
  occurredOn : Instant
  ownerId : OwnerId
  name : String
  email : String
  role : Option String
  deriving DecidableEq

instance : IntegrationEvent UserDeactivated where
  encode event := .record
    [("event_id", Json.encode event.eventId), ("occurred_on", Json.encode event.occurredOn),
      ("owner_id", Json.encode event.ownerId), ("name", Json.encode event.name),
      ("email", Json.encode event.email), ("role", Json.encode event.role)]
  decode := Json.Record.decode (UserDeactivated.mk <$> .required "event_id"
    <*> .required "occurred_on" <*> .required "owner_id" <*> .required "name"
    <*> .required "email" <*> .optional "role") "UserDeactivated"
  eventType := "UserDeactivated"
  eventId event := event.eventId
  occurredOn event := event.occurredOn
  aggregateId event := event.ownerId.cast .entity

end Fieldwatch.Event
