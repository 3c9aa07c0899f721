import Fieldwatch.Event.Message
import Fieldwatch.Store.ChangeSet

/-!
# Outcomes

What the inbox did with an event. Every outcome takes the event off the broker; only a failure of
the store asks for it again.
-/
namespace Fieldwatch

inductive Outcome
  /-- A snapshot was stored. -/
  | created
  /-- A snapshot was changed. -/
  | applied
  /-- The snapshot shows the event already. -/
  | duplicate
  /-- The event is older than the last change applied. -/
  | stale
  /-- There is no snapshot, and the event makes none. -/
  | notFound
  /-- The event is malformed. -/
  | invalid (reason : String)
  /-- The event is of no concern. -/
  | ignored
  deriving DecidableEq, Repr

namespace Outcome

def isWrite : Outcome → Bool
  | created | applied => true
  | _ => false

/-- The label under which an outcome is counted. -/
def label : Outcome → String
  | created => "created"
  | applied => "applied"
  | duplicate => "duplicate"
  | stale => "stale"
  | notFound => "not_found"
  | invalid _ => "invalid"
  | ignored => "ignored"

def text : Outcome → String
  | invalid reason => "invalid: " ++ reason
  | other => other.label

end Outcome

/-- What the inbox decides on an event: a change set and its outcome, or an outcome alone. -/
inductive Decision
  | skip (outcome : Outcome)
  | write (changes : ChangeSet) (outcome : Outcome)

structure MessageContext where
  eventId : EventId
  eventType : String
  correlationId : CorrelationId
  source : String
  /-- One for the first delivery. -/
  attempt : UInt32
  deriving DecidableEq, Repr

namespace MessageContext

/-- The context of an envelope at an attempt. -/
def ofEnvelope (envelope : Envelope) (attempt : UInt32) : MessageContext :=
  ⟨envelope.eventId, envelope.eventType, envelope.correlationId, envelope.source, attempt⟩

/-- The context of an event handed over outside the broker, on a causal chain of its own. -/
def ofMessage (message : Message) (correlationId : CorrelationId) : MessageContext :=
  ⟨message.eventId, message.eventType, correlationId, "direct", 1⟩

end MessageContext

/-- A failure of the store while an event was handled. -/
structure InboxError where
  context : MessageContext
  /-- The snapshot that the event is about. -/
  targetId : EntityId
  cause : StoreError
  deriving DecidableEq

namespace InboxError

/-- Whether the event may go through when it is delivered again. -/
def isTransient (error : InboxError) : Bool := error.cause.isTransient

def message (error : InboxError) : String :=
  "Failed to handle " ++ error.context.eventType ++ " " ++ error.context.eventId.text ++ " for "
    ++ error.targetId.text ++ " (correlation " ++ error.context.correlationId.text ++ "): "
    ++ error.cause.message

end InboxError
end Fieldwatch
