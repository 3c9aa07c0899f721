import Fieldwatch.Event.Consumed
import Fieldwatch.Event.Produced

/-!
# Messages

Any integration event, whatever its type: what an envelope is opened into when its type is not
known beforehand.
-/
namespace Fieldwatch

inductive Message
  | sensorIngested (event : Event.SensorIngested)
  | sensorRegistered (event : Event.SensorRegistered)
  | sensorDeactivated (event : Event.SensorDeactivated)
  | sensorOperationalStatusChanged (event : Event.SensorOperationalStatusChanged)
  | userCreated (event : Event.UserCreated)
  | userUpdated (event : Event.UserUpdated)
  | userDeactivated (event : Event.UserDeactivated)
  | alertRaised (event : Event.AlertRaised)
  | alertAcknowledged (event : Event.AlertAcknowledged)
  | alertResolved (event : Event.AlertResolved)
  deriving DecidableEq

namespace Message

def eventType : Message → String
  | sensorIngested _ => IntegrationEvent.eventType Event.SensorIngested
  | sensorRegistered _ => IntegrationEvent.eventType Event.SensorRegistered
  | sensorDeactivated _ => IntegrationEvent.eventType Event.SensorDeactivated
  | sensorOperationalStatusChanged _ =>
    IntegrationEvent.eventType Event.SensorOperationalStatusChanged
  | userCreated _ => IntegrationEvent.eventType Event.UserCreated
  | userUpdated _ => IntegrationEvent.eventType Event.UserUpdated
  | userDeactivated _ => IntegrationEvent.eventType Event.UserDeactivated
  | alertRaised _ => IntegrationEvent.eventType Event.AlertRaised
  | alertAcknowledged _ => IntegrationEvent.eventType Event.AlertAcknowledged
  | alertResolved _ => IntegrationEvent.eventType Event.AlertResolved

def eventId : Message → EventId
  | sensorIngested event => event.eventId
  | sensorRegistered event => event.eventId
  | sensorDeactivated event => event.eventId
  | sensorOperationalStatusChanged event => event.eventId
  | userCreated event => event.eventId
  | userUpdated event => event.eventId
  | userDeactivated event => event.eventId
  | alertRaised event => event.eventId
  | alertAcknowledged event => event.eventId
  | alertResolved event => event.eventId

def occurredOn : Message → Instant
  | sensorIngested event => event.occurredOn
  | sensorRegistered event => event.occurredOn
  | sensorDeactivated event => event.occurredOn
  | sensorOperationalStatusChanged event => event.occurredOn
  | userCreated event => event.occurredOn
  | userUpdated event => event.occurredOn
  | userDeactivated event => event.occurredOn
  | alertRaised event => event.occurredOn
  | alertAcknowledged event => event.occurredOn
  | alertResolved event => event.occurredOn

def aggregateId : Message → EntityId
  | sensorIngested event => IntegrationEvent.aggregateId event
  | sensorRegistered event => IntegrationEvent.aggregateId event
  | sensorDeactivated event => IntegrationEvent.aggregateId event
  | sensorOperationalStatusChanged event => IntegrationEvent.aggregateId event
  | userCreated event => IntegrationEvent.aggregateId event
  | userUpdated event => IntegrationEvent.aggregateId event
  | userDeactivated event => IntegrationEvent.aggregateId event
  | alertRaised event => IntegrationEvent.aggregateId event
  | alertAcknowledged event => IntegrationEvent.aggregateId event
  | alertResolved event => IntegrationEvent.aggregateId event

def toJson : Message → Json
  | sensorIngested event => Json.encode event
  | sensorRegistered event => Json.encode event
  | sensorDeactivated event => Json.encode event
  | sensorOperationalStatusChanged event => Json.encode event
  | userCreated event => Json.encode event
  | userUpdated event => Json.encode event
  | userDeactivated event => Json.encode event
  | alertRaised event => Json.encode event
  | alertAcknowledged event => Json.encode event
  | alertResolved event => Json.encode event

def wrap (message : Message) (correlationId : CorrelationId) (source : String) :
    Except EnvelopeError Envelope :=
  match message with
  | sensorIngested event => Envelope.wrap event correlationId source
  | sensorRegistered event => Envelope.wrap event correlationId source
  | sensorDeactivated event => Envelope.wrap event correlationId source
  | sensorOperationalStatusChanged event => Envelope.wrap event correlationId source
  | userCreated event => Envelope.wrap event correlationId source
  | userUpdated event => Envelope.wrap event correlationId source
  | userDeactivated event => Envelope.wrap event correlationId source
  | alertRaised event => Envelope.wrap event correlationId source
  | alertAcknowledged event => Envelope.wrap event correlationId source
  | alertResolved event => Envelope.wrap event correlationId source

/-- Reads the payload of one type of event. -/
def reader {ε : Type} [Json.Wire ε] (make : ε → Message) (payload : Json) :
    Except Json.DecodeError Message :=
  (Json.decode ε payload).map make

/-- How the payload of each type of event is read. -/
def readers : List (String × (Json → Except Json.DecodeError Message)) :=
  [("SensorIngested", reader sensorIngested), ("SensorRegistered", reader sensorRegistered),
    ("SensorDeactivated", reader sensorDeactivated),
    ("SensorOperationalStatusChanged", reader sensorOperationalStatusChanged),
    ("UserCreated", reader userCreated), ("UserUpdated", reader userUpdated),
    ("UserDeactivated", reader userDeactivated),
    ("AlertRaised", reader alertRaised), ("AlertAcknowledged", reader alertAcknowledged),
    ("AlertResolved", reader alertResolved)]

/-- Opens an envelope by the type it names. -/
def ofEnvelope (envelope : Envelope) : Except EnvelopeError Message :=
  match readers.find? fun reader => reader.1 = envelope.eventType with
  | some reader => (reader.2 envelope.payload).mapError .unreadable
  | none => .error (.unknownEventType envelope.eventType)

/-- Opens an envelope as a named type, which must be its own. -/
def ofEnvelopeAs (name : String) (envelope : Envelope) : Except EnvelopeError Message :=
  match readers.find? fun reader => reader.1 = name with
  | some reader =>
    if envelope.eventType = name then (reader.2 envelope.payload).mapError .unreadable
    else .error (.typeMismatch name envelope.eventType)
  | none => .error (.unknownEventType name)

/-- Reads the payload form of an event of a named type. -/
def ofJson (name : String) (payload : Json) : Except EnvelopeError Message :=
  match readers.find? fun reader => reader.1 = name with
  | some reader => (reader.2 payload).mapError .unreadable
  | none => .error (.unknownEventType name)

end Message
end Fieldwatch
