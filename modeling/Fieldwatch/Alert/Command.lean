import Fieldwatch.Alert.Basic
import Fieldwatch.Text.Blank

/-!
# Alert commands

Raising, acknowledging and resolving an alert, and restoring it from its record. A command records
one event or is refused; beside the error stands the alert as the command leaves it.
-/
namespace Fieldwatch

/-- Why a command on an alert is refused. -/
inductive AlertError
  /-- The status does not allow the action. -/
  | invalidTransition (current : AlertStatus) (action : String)
  /-- The resolution notes are too long. -/
  | notesTooLong (length : Nat)
  deriving DecidableEq, Repr

/-- The greatest length of an alert message, in characters. -/
def NewAlert.maxMessageLength : Nat := 500

/-- The greatest length of resolution notes, in characters. -/
def Alert.maxNotesLength : Nat := 1000

def AlertError.message : AlertError → String
  | invalidTransition current action =>
    "Invalid state transition: cannot " ++ action ++ " from " ++ current.name ++ " state"
  | notesTooLong length =>
    "Resolution notes too long: " ++ toString length ++ " characters (max "
      ++ toString Alert.maxNotesLength ++ ")"

namespace Alert

/-- The faults of a new alert. The message is looked at without the blanks at its ends. -/
def faults (input : NewAlert) : Faults :=
  let length := (Text.trim input.message).length
  let named := Faults.none.check input.sensorId.isNil "sensor_id" "must not be empty"
  let worded := (named.check (length = 0) "message" "must not be empty").check
    (NewAlert.maxMessageLength < length) "message"
    ("must be at most " ++ toString NewAlert.maxMessageLength ++ " characters")
  (worded.checkFinite "value" input.value).checkFinite "threshold" input.threshold

def raisedEvent (id : EntityId) (input : NewAlert) (now : Instant) : AlertEvent :=
  .raised {
    alertId := id
    sensorId := input.sensorId
    kind := input.kind
    severity := input.severity
    message := Text.trim input.message
    value := input.value
    threshold := input.threshold
    raisedAt := now }

/-- Raises an alert under an identifier, if it has no fault. -/
def raise (id : EntityId) (input : NewAlert) (now : Instant) : Except Faults Alert :=
  (faults input).accept (Tracked.new.record (raisedEvent id input now))

/-- Marks a pending alert as seen. `unnamed` names an alert that was never raised. -/
def acknowledge (alert : Alert) (actor : Option OwnerId) (now : Instant) (unnamed : EntityId) :
    Except (AlertError × Alert) Alert :=
  if alert.state.status.canAcknowledge then
    .ok (alert.record (.acknowledged ⟨alert.state.id.getD unnamed, actor, now⟩))
  else .error (.invalidTransition alert.state.status "acknowledge", alert)

/-- Closes an alert that is not yet resolved. Notes are trimmed, and blank ones dropped. `unnamed`
names an alert that was never raised. -/
def resolve (alert : Alert) (actor : Option OwnerId) (notes : Option String) (now : Instant)
    (unnamed : EntityId) : Except (AlertError × Alert) Alert :=
  if alert.state.status.canResolve then
    let kept := notes.bind Text.trimmed?
    let length := (kept.map String.length).getD 0
    if maxNotesLength < length then .error (.notesTooLong length, alert)
    else .ok (alert.record (.resolved ⟨alert.state.id.getD unnamed, actor, kept, now⟩))
  else .error (.invalidTransition alert.state.status "resolve", alert)

def eventsOf (record : AlertRecord) : List AlertEvent :=
  [.raised ⟨record.id, record.sensorId, record.kind, record.severity, record.message, record.value,
      record.threshold, record.raisedAt⟩]
    ++ (record.acknowledgedAt.map fun moment =>
      AlertEvent.acknowledged ⟨record.id, record.acknowledgedBy, moment⟩).toList
    ++ (record.resolvedAt.map fun moment =>
      AlertEvent.resolved ⟨record.id, record.resolvedBy, record.resolutionNotes, moment⟩).toList

/-- An alert as it was stored at a version, made by the events its record tells of. -/
def restore (record : AlertRecord) (version : Int) : Alert :=
  .stored (Tracked.replay AlertState.empty (eventsOf record)) version

end Alert
end Fieldwatch
