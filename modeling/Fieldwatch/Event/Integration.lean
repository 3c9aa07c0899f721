import Fieldwatch.Event.Envelope

/-!
# Integration events

What every event that crosses the boundary of the service has, and how it is put into an envelope
and taken out again.
-/
namespace Fieldwatch

/-- An event with an identity, a time and an entity that it is about, and a name on the wire. -/
class IntegrationEvent (α : Type) extends Json.Wire α where
  /-- The name on the wire. -/
  eventType : String
  eventId : α → EventId
  occurredOn : α → Instant
  /-- The entity that the event is about. -/
  aggregateId : α → EntityId

def IntegrationEvent.schemaVersion : UInt16 := 1

namespace Envelope

/-- Puts an event into an envelope that carries its identity and its time. -/
def wrap {α : Type} [IntegrationEvent α] (event : α) (correlationId : CorrelationId)
    (source : String) : Except EnvelopeError Envelope :=
  Draft.build {
    eventId := some (IntegrationEvent.eventId event)
    eventType := some (IntegrationEvent.eventType α)
    schemaVersion := some IntegrationEvent.schemaVersion
    aggregateId := some (IntegrationEvent.aggregateId event)
    correlationId := some correlationId
    source := some source
    occurredOn := some (IntegrationEvent.occurredOn event)
    payload := some (Json.encode event) }
    (IntegrationEvent.eventId event) (IntegrationEvent.occurredOn event)

/-- Reads the payload as an event; an envelope of another type is refused. -/
def openAs (α : Type) [IntegrationEvent α] (envelope : Envelope) : Except EnvelopeError α :=
  if envelope.eventType = IntegrationEvent.eventType α then
    (Json.decode α envelope.payload).mapError .unreadable
  else .error (.typeMismatch (IntegrationEvent.eventType α) envelope.eventType)

end Envelope
end Fieldwatch
