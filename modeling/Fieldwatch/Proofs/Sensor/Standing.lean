import Fieldwatch.Proofs.Inbox.Checks
import Fieldwatch.Proofs.Inbox.Runs
import Fieldwatch.Proofs.Time.Apart

/-!
# The status of a sensor

What the row of a sensor shows of its status, and what each message about the sensor makes of that:
registrations leave it alone, and a status change or a deactivation either leaves it alone or
replaces it by what it tells, and then never by something older.
-/
namespace Fieldwatch.Inbox

open Tables (find?)

/-- The status of a sensor, with why and since when. -/
structure Standing where
  status : SensorStatus
  isActive : Bool
  reason : Option String
  since : Instant
  deriving DecidableEq

namespace Standing

def ofStatus (status : SensorStatus) (reason : Option String) (since : Instant) : Standing :=
  ⟨status, status.isActive, reason, since⟩

/-- The status that a row shows, if it knows since when. -/
def ofRow? (sensor : SensorSnapshot) : Option Standing :=
  sensor.lastStatusChangeAt.map fun since =>
    ⟨sensor.status, sensor.isActive, sensor.statusReason, since⟩

theorem ofRow?_eq_some {sensor : SensorSnapshot} {shown : Standing}
    (shows : ofRow? sensor = some shown) :
    sensor.status = shown.status ∧ sensor.isActive = shown.isActive ∧
      sensor.lastStatusChangeAt = some shown.since := by
  obtain ⟨since, changed, rfl⟩ := Option.map_eq_some_iff.mp shows
  exact ⟨rfl, rfl, changed⟩

end Standing

variable {policy : StalenessPolicy} {message : Message} {context : MessageContext}
  {world : World Tables} {id : SensorId} {row : SensorSnapshot} {shown next : Standing}

/-! ## Messages -/

/-- A registration leaves the status of a stored sensor alone. -/
theorem ofRow?_registration (event : Event.SensorRegistered) (row : SensorSnapshot)
    (now : Instant) :
    ∃ left, sensorAfter policy (.sensorRegistered event) (some row) now = some left ∧
      Standing.ofRow? left = Standing.ofRow? row := by
  rw [sensorAfter, sensorRule?]
  cases event.check with
  | error reason => exact ⟨row, rfl, rfl⟩
  | ok status =>
    refine ⟨_, rfl, ?_⟩
    split <;> rfl

/-- What a message makes of the status of a stored sensor. -/
inductive StatusStep (message : Message) (shown : Standing) : Standing → Prop
  | kept : StatusStep message shown shown
  | changed {event : Event.SensorOperationalStatusChanged} {status : SensorStatus}
    (told : message = .sensorOperationalStatusChanged event)
    (named : SensorStatus.ofText event.newStatus = .ok status)
    (current : shown.since ≤ event.occurredOn) :
    StatusStep message shown (.ofStatus status event.reason event.occurredOn)
  | deactivated {event : Event.SensorDeactivated} (told : message = .sensorDeactivated event)
    (current : shown.since ≤ event.occurredOn) :
    StatusStep message shown (.ofStatus .inactive event.reason event.occurredOn)

theorem StatusStep.since_le (step : StatusStep message shown next) : shown.since ≤ next.since := by
  cases step with
  | kept => exact le_refl _
  | changed _ _ current => exact current
  | deactivated _ current => exact current

theorem le_of_not_older {occurredOn : Instant} (shows : Standing.ofRow? row = some shown)
    (current : row.isOlderThanLastChange occurredOn = false) : shown.since ≤ occurredOn := by
  obtain ⟨-, -, since⟩ := Standing.ofRow?_eq_some shows
  simpa [SensorSnapshot.isOlderThanLastChange, since] using current

/-- A message about a stored sensor leaves a row whose status is a step on. -/
theorem statusStep_sensorAfter (about : sensorOf? message = some id)
    (shows : Standing.ofRow? row = some shown) (now : Instant) :
    ∃ left next, sensorAfter policy message (some row) now = some left ∧
      Standing.ofRow? left = some next ∧ StatusStep message shown next := by
  cases message with
  | sensorRegistered event =>
    obtain ⟨left, after, same⟩ := ofRow?_registration event row now
    exact ⟨left, shown, after, same.trans shows, .kept⟩
  | sensorDeactivated event =>
    rw [sensorAfter, sensorRule?]
    cases event.check with
    | error reason => exact ⟨row, shown, rfl, shows, .kept⟩
    | ok _ =>
      rcases (sensorDeactivation event).next_cases row now with
        ⟨-, -, kept⟩ | ⟨-, -, kept⟩ | ⟨current, -, changed⟩
      · exact ⟨row, shown, kept, shows, .kept⟩
      · exact ⟨row, shown, kept, shows, .kept⟩
      · exact ⟨_, _, changed, rfl, .deactivated rfl (le_of_not_older shows current)⟩
  | sensorOperationalStatusChanged event =>
    rw [sensorAfter, sensorRule?]
    cases checked : event.check with
    | error reason => exact ⟨row, shown, rfl, shows, .kept⟩
    | ok status =>
      rcases (statusChange event policy status).next_cases row now with
        ⟨-, -, kept⟩ | ⟨-, -, kept⟩ | ⟨current, -, changed⟩
      · exact ⟨row, shown, kept, shows, .kept⟩
      · exact ⟨row, shown, kept, shows, .kept⟩
      · exact ⟨_, _, changed, rfl,
          .changed rfl (of_check_statusChange checked).2 (le_of_not_older shows current)⟩
  | sensorIngested _ | userCreated _ | userUpdated _ | userDeactivated _ | alertRaised _
  | alertAcknowledged _ | alertResolved _ => cases about

/-! ## Deliveries -/

/-- Whether commits succeed and a stored sensor shows a status. -/
structure Shows (id : SensorId) (shown : Standing) (world : World Tables) : Prop where
  unset : world.store.failNextCommit = false
  row : ∃ row, find? world.store.sensors id = some row ∧ Standing.ofRow? row = some shown

/-- A message about a stored sensor is answered and moves its status a step on. -/
theorem Shows.handle (shows : Shows id shown world) (about : sensorOf? message = some id)
    (context : MessageContext) :
    ∃ outcome after next, Inbox.handle policy message context world = (.ok outcome, after) ∧
      Shows id next after ∧ StatusStep message shown next := by
  obtain ⟨unset, row, found, shows⟩ := shows
  obtain ⟨outcome, after, handled, unset, left⟩ := handle_sensor about context unset
  obtain ⟨row, next, moved, shows, step⟩ := statusStep_sensorAfter about shows world.now.time
  rw [found, moved] at left
  exact ⟨outcome, after, next, handled, ⟨unset, row, left, shows⟩, step⟩

/-- A message about a sensor that is not stored stores none, or one that shows a status. -/
theorem sensorAfter_none (about : sensorOf? message = some id) (now : Instant) :
    sensorAfter policy message none now = none ∨
      id.isNil = false ∧ ∃ row shown, sensorAfter policy message none now = some row ∧
        Standing.ofRow? row = some shown := by
  cases message with
  | sensorRegistered event =>
    cases about
    rw [sensorAfter, sensorRule?]
    cases checked : event.check with
    | error reason => exact .inl rfl
    | ok status => exact .inr ⟨(of_check_registration checked).1, _, _, rfl, rfl⟩
  | sensorDeactivated event =>
    rw [sensorAfter, sensorRule?]
    cases event.check <;> exact .inl rfl
  | sensorOperationalStatusChanged event =>
    rw [sensorAfter, sensorRule?]
    cases event.check <;> exact .inl rfl
  | sensorIngested _ | userCreated _ | userUpdated _ | userDeactivated _ | alertRaised _
  | alertAcknowledged _ | alertResolved _ => cases about

/-- Whether commits succeed and a sensor, if it is stored, shows a status. -/
def Dated (id : SensorId) (world : World Tables) : Prop :=
  world.store.failNextCommit = false ∧ find? world.store.sensors id = none ∨
    id.isNil = false ∧ ∃ shown, Shows id shown world

theorem Dated.handle (dated : Dated id world) (about : sensorOf? message = some id)
    (context : MessageContext) :
    ∃ outcome after, Inbox.handle policy message context world = (.ok outcome, after) ∧
      Dated id after := by
  rcases dated with ⟨unset, absent⟩ | ⟨real, shown, shows⟩
  · obtain ⟨outcome, after, handled, unset, left⟩ := handle_sensor about context unset
    refine ⟨outcome, after, handled, ?_⟩
    rw [absent] at left
    rcases sensorAfter_none about world.now.time with none | ⟨real, row, shown, made, shows⟩
    · exact .inl ⟨unset, left.trans none⟩
    · exact .inr ⟨real, shown, unset, row, left.trans made, shows⟩
  · obtain ⟨outcome, after, next, handled, shows, -⟩ := shows.handle about context
    exact ⟨outcome, after, handled, .inr ⟨real, next, shows⟩⟩

/-! ## A farm -/

/-- The registration of a sensor in a well. -/
def wellDug : Event.SensorRegistered :=
  ⟨⟨11⟩, .epoch, ⟨1⟩, ⟨2⟩, ⟨3⟩, ⟨4⟩, none, "North", "Mill", "Active"⟩

/-- The context in which everything about the well is delivered. -/
def wellContext : MessageContext := .ofMessage (.sensorRegistered wellDug) ⟨9⟩

/-- The farm once the well was dug. -/
def dugFarm : World Tables :=
  (handle .standard (.sensorRegistered wellDug) wellContext (.atRest .empty)).2

end Fieldwatch.Inbox
