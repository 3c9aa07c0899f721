import Mathlib.Data.List.Forall2
import Fieldwatch.Ingest.Staging
import Fieldwatch.Proofs.Event.Envelope

/-!
# What entries tell

A domain event is told by an outbox entry when the entry is fresh and its envelope opens to the
integration event with the fields of the domain event, the entity, the time and the causal chain
given outside as well as inside.
-/
namespace Fieldwatch

/-- What happened to a reading, or to an alert of a sensor. -/
inductive DomainEvent
  | reading (event : ReadingEvent)
  | alert (sensorId : SensorId) (event : AlertEvent)
  deriving DecidableEq

namespace DomainEvent

def occurredOn : DomainEvent → Instant
  | reading event => event.occurredOn
  | alert _ event => event.occurredOn

/-- The reading or the alert it happened to. -/
def aggregateId : DomainEvent → EntityId
  | reading (.recorded data) => data.readingId
  | alert _ event => event.alertId

/-- The row of the reading that an event tells of. -/
def record? : DomainEvent → Option ReadingRecord
  | reading (.recorded data) =>
    some ⟨data.readingId, data.sensorId, data.time, data.metrics, data.recordedAt⟩
  | alert _ _ => none

/-- The integration event of a domain event. -/
def toMessage (eventId : EventId) : DomainEvent → Message
  | reading event => event.toMessage eventId
  | alert sensorId event => event.toMessage eventId sensorId

/-- Whether an integration event has the fields of a domain event. -/
def CarriedBy : DomainEvent → Message → Prop
  | reading (.recorded data), .sensorIngested event =>
    event.sensorReadingId = data.readingId ∧ event.sensorId = data.sensorId ∧
      event.time = data.time ∧ event.occurredOn = data.recordedAt ∧
      (⟨event.temperature, event.humidity, event.soilMoisture, event.rainfall,
        event.batteryLevel⟩ : Metrics) = data.metrics
  | alert _ (.raised data), .alertRaised event =>
    event.alertId = data.alertId ∧ event.sensorId = data.sensorId ∧
      event.kind = data.kind.name ∧ event.severity = data.severity.name ∧
      event.message = data.message ∧ event.value = data.value ∧
      event.threshold = data.threshold ∧ event.occurredOn = data.raisedAt
  | alert sensorId (.acknowledged data), .alertAcknowledged event =>
    event.alertId = data.alertId ∧ event.sensorId = sensorId ∧
      event.acknowledgedBy = data.acknowledgedBy ∧ event.occurredOn = data.acknowledgedAt
  | alert sensorId (.resolved data), .alertResolved event =>
    event.alertId = data.alertId ∧ event.sensorId = sensorId ∧
      event.resolvedBy = data.resolvedBy ∧ event.notes = data.notes ∧
      event.occurredOn = data.resolvedAt
  | _, _ => False

variable (event : DomainEvent) (eventId : EventId)

theorem eventId_toMessage : (event.toMessage eventId).eventId = eventId := by
  rcases event with ⟨_⟩ | ⟨_, _ | _ | _⟩ <;> rfl

theorem aggregateId_toMessage : (event.toMessage eventId).aggregateId = event.aggregateId := by
  rcases event with ⟨_⟩ | ⟨_, _ | _ | _⟩ <;> rfl

theorem occurredOn_toMessage : (event.toMessage eventId).occurredOn = event.occurredOn := by
  rcases event with ⟨_⟩ | ⟨_, _ | _ | _⟩ <;> rfl

/-- The integration event of a domain event has its fields. -/
theorem carriedBy_toMessage : event.CarriedBy (event.toMessage eventId) := by
  rcases event with ⟨_⟩ | ⟨_, _ | _ | _⟩
  · exact ⟨rfl, rfl, rfl, rfl, rfl⟩
  · exact ⟨rfl, rfl, rfl, rfl, rfl, rfl, rfl, rfl⟩
  · exact ⟨rfl, rfl, rfl, rfl⟩
  · exact ⟨rfl, rfl, rfl, rfl, rfl⟩

end DomainEvent

/-- Whether an entry is fresh and tells of a domain event on a causal chain. -/
structure OutboxEntry.Tells (entry : OutboxEntry) (correlationId : CorrelationId)
    (event : DomainEvent) : Prop where
  pending : entry.status = .pending
  untried : entry.attempts = 0
  carried : ∃ message, Message.ofEnvelope entry.envelope = .ok message ∧
    event.CarriedBy message ∧ message.eventId = entry.envelope.eventId
  named : entry.envelope.payload.get? "event_id" = some (Json.encode entry.envelope.eventId)
  aggregateId : entry.envelope.aggregateId = event.aggregateId
  occurredOn : entry.envelope.occurredOn = event.occurredOn
  correlationId : entry.envelope.correlationId = correlationId

/-- A new entry with the envelope of its integration event tells of a domain event. -/
theorem OutboxEntry.tells_new (id : EntryId) (event : DomainEvent) (eventId : EventId)
    (correlationId : CorrelationId) (source : String) (now : Instant) :
    (OutboxEntry.new id ((event.toMessage eventId).envelope correlationId source) now).Tells
      correlationId event where
  pending := rfl
  untried := rfl
  carried :=
    ⟨event.toMessage eventId, Message.ofEnvelope_envelope _ correlationId source,
      event.carriedBy_toMessage eventId, rfl⟩
  named := Message.get?_eventId _
  aggregateId := event.aggregateId_toMessage eventId
  occurredOn := event.occurredOn_toMessage eventId
  correlationId := rfl

end Fieldwatch
