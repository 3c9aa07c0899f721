import Fieldwatch.Inbox.Owners
import Fieldwatch.World

/-!
# Handling events

Handling an event is one read of the snapshot it is about, a decision, and one commit of what was
decided. The read and the commit are steps of their own, so that the handling of several events
may be interleaved.
-/
namespace Fieldwatch

/-- What is to be done with an event before the store is asked. -/
inductive Plan
  /-- Done without the store. -/
  | done (outcome : Outcome)
  /-- To be decided on the stored sensor. -/
  | onSensor (id : SensorId) (decide : Option SensorSnapshot → Instant → Decision)
  /-- To be decided on the stored owner. -/
  | onOwner (id : OwnerId) (decide : Option OwnerSnapshot → Instant → Decision)

namespace Plan

/-- A plan for an event that was checked; a malformed one is done. -/
def ofCheck {α : Type} (checked : Except String α) (plan : α → Plan) : Plan :=
  match checked with
  | .ok value => plan value
  | .error reason => .done (.invalid reason)

/-- What is to be done with an event under a policy. -/
def ofMessage (policy : StalenessPolicy) : Message → Plan
  | .sensorRegistered event =>
    ofCheck event.check fun status => .onSensor event.sensorId (event.decide status)
  | .sensorDeactivated event => ofCheck event.check fun _ => .onSensor event.sensorId event.decide
  | .sensorOperationalStatusChanged event =>
    ofCheck event.check fun status => .onSensor event.sensorId (event.decide policy status)
  | .userCreated event =>
    ofCheck event.check fun details => .onOwner event.ownerId (event.decide policy details)
  | .userUpdated event =>
    ofCheck event.check fun details => .onOwner event.ownerId (event.decide policy details)
  | .userDeactivated event => ofCheck event.check fun _ => .onOwner event.ownerId event.decide
  | .sensorIngested _ | .alertRaised _ | .alertAcknowledged _ | .alertResolved _ => .done .ignored

end Plan

/-- A decision on the thing that an event is about. -/
structure Decided where
  targetId : EntityId
  decision : Decision

namespace Inbox

variable {σ : Type} [Backend σ]

/-- A failure of the store, told as a failure to handle a delivery. -/
def failing {α : Type} (context : MessageContext) (targetId : EntityId)
    (task : Task σ StoreError α) : Task σ InboxError α :=
  task.mapError fun cause => ⟨context, targetId, cause⟩

/-- The first step: reads the snapshot and decides. -/
def load (plan : Plan) (context : MessageContext) : Task σ InboxError Decided :=
  match plan with
  | .done outcome => return ⟨.nil, .skip outcome⟩
  | .onSensor id decide => do
    let stored ← failing context (id.cast .entity)
      (.access (Backend.getSensor id .includeInactive))
    return ⟨id.cast .entity, decide stored (← Task.now)⟩
  | .onOwner id decide => do
    let stored ← failing context (id.cast .entity)
      (.access (Backend.getOwner id .includeInactive))
    return ⟨id.cast .entity, decide stored (← Task.now)⟩

/-- The second step: commits what was decided. -/
def finish (decided : Decided) (context : MessageContext) : Task σ InboxError Outcome :=
  match decided.decision with
  | .skip outcome => return outcome
  | .write changes outcome => do
    let _ ← failing context decided.targetId (Task.commit changes)
    return outcome

/-- Handles an event: both steps, one after the other. -/
def handle (policy : StalenessPolicy) (message : Message) (context : MessageContext) :
    Task σ InboxError Outcome := do
  finish (← load (Plan.ofMessage policy message) context) context

/-- Opens and handles a delivered envelope, and counts what came of it. An envelope that cannot be
opened is taken as invalid. -/
def process (policy : StalenessPolicy) (envelope : Envelope) (attempt : UInt32) :
    Task σ InboxError Outcome := fun world =>
  let task : Task σ InboxError Outcome :=
    match Message.ofEnvelope envelope with
    | .ok message => handle policy message (.ofEnvelope envelope attempt)
    | .error error => return .invalid error.message
  let (result, world) := task world
  let label := match result with
    | .ok outcome => outcome.label
    | .error _ => "error"
  let counters := (world.counters.add (.inboxEvents envelope.eventType label) 1).add
    .inboxDurations 1
  (result, { world with counters })

/-- The types of event that the inbox handles. -/
def eventTypes : List String :=
  [IntegrationEvent.eventType Event.SensorRegistered,
    IntegrationEvent.eventType Event.SensorDeactivated,
    IntegrationEvent.eventType Event.SensorOperationalStatusChanged,
    IntegrationEvent.eventType Event.UserCreated, IntegrationEvent.eventType Event.UserUpdated,
    IntegrationEvent.eventType Event.UserDeactivated]

/-- The name under which the inbox subscribes. -/
def name : String := "InboxDispatcher"

/-- The name of the handler of each type of event that the inbox handles. -/
def handlerName? : Message → Option String
  | .sensorRegistered _ => some "SensorRegisteredHandler"
  | .sensorDeactivated _ => some "SensorDeactivatedHandler"
  | .sensorOperationalStatusChanged _ => some "SensorStatusChangedHandler"
  | .userCreated _ => some "UserCreatedHandler"
  | .userUpdated _ => some "UserUpdatedHandler"
  | .userDeactivated _ => some "UserDeactivatedHandler"
  | _ => none

end Inbox
end Fieldwatch
