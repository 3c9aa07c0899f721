import Fieldwatch.Json.Record
import Fieldwatch.Text.Blank

/-!
# Event envelopes

Every integration event travels in an envelope that says what it is, which entity it is about,
which causal chain it belongs to and who sent it.
-/
namespace Fieldwatch

/-- Why an envelope cannot be built or opened. -/
inductive EnvelopeError
  /-- A part that was not given. -/
  | missingField (name : String)
  /-- A type of event that is not known here. -/
  | unknownEventType (name : String)
  /-- An envelope opened as another type of event. -/
  | typeMismatch (expected actual : String)
  /-- A payload that cannot be read. -/
  | unreadable (cause : Json.DecodeError)
  deriving DecidableEq

def EnvelopeError.message : EnvelopeError → String
  | missingField name => "Missing envelope field: " ++ name
  | unknownEventType name => "Unknown event type: " ++ name
  | typeMismatch expected actual =>
    "Event type mismatch: expected " ++ expected ++ ", found " ++ actual
  | unreadable cause => "Payload serialization error: " ++ cause.message

/-- An integration event on its way. -/
structure Envelope where
  eventId : EventId
  eventType : String
  schemaVersion : UInt16
  aggregateId : EntityId
  correlationId : CorrelationId
  /-- The use case or handler that sent it. -/
  source : String
  /-- When it happened at its producer. -/
  occurredOn : Instant
  payload : Json
  deriving Inhabited

namespace Envelope

instance : Json.Wire Envelope where
  encode envelope := .record
    [("event_id", Json.encode envelope.eventId), ("event_type", Json.encode envelope.eventType),
      ("schema_version", Json.encode envelope.schemaVersion),
      ("aggregate_id", Json.encode envelope.aggregateId),
      ("correlation_id", Json.encode envelope.correlationId),
      ("source", Json.encode envelope.source), ("occurred_on", Json.encode envelope.occurredOn),
      ("payload", envelope.payload)]
  decode := Json.Record.decode (Envelope.mk <$> .required "event_id" <*> .required "event_type"
    <*> .required "schema_version" <*> .required "aggregate_id" <*> .required "correlation_id"
    <*> .required "source" <*> .required "occurred_on" <*> .required "payload") "EventEnvelope"

/-- The parts of an envelope to be built. -/
structure Draft where
  eventId : Option EventId := none
  eventType : Option String := none
  schemaVersion : Option UInt16 := none
  aggregateId : Option EntityId := none
  correlationId : Option CorrelationId := none
  source : Option String := none
  occurredOn : Option Instant := none
  payload : Option Json := none

def Draft.need {α : Type} (name : String) : Option α → Except EnvelopeError α
  | some value => .ok value
  | none => .error (.missingField name)

/-- Builds an envelope. A source that is not blank, the event type, the entity, the causal chain
and the payload must be given; the identifier, version 1 and the time are supplied if not. -/
def Draft.build (draft : Draft) (freshId : EventId) (now : Instant) :
    Except EnvelopeError Envelope := do
  let source ← Draft.need "source" (draft.source.filter fun text => !Text.isBlankText text)
  let eventType ← Draft.need "event_type" draft.eventType
  let aggregateId ← Draft.need "aggregate_id" draft.aggregateId
  let correlationId ← Draft.need "correlation_id" draft.correlationId
  let payload ← Draft.need "payload" draft.payload
  return {
    eventId := draft.eventId.getD freshId
    eventType, aggregateId, correlationId, source, payload
    schemaVersion := draft.schemaVersion.getD 1
    occurredOn := draft.occurredOn.getD now }

end Envelope
end Fieldwatch
