import Fieldwatch.Proofs.Sensor.Standing

/-!
# Reopening a sensor

Readings of a sensor are accepted while it is active. A deactivation leaves the time of the last
change behind, its own or a later one, and from then on only a status change that is no older makes
the sensor active again. A deactivation of a sensor that is deactivated already leaves no time of
its own: then the time is that of the change that had deactivated it, which may come before the
second deactivation.
-/
namespace Fieldwatch.Inbox

open Tables (find?)

/-- Whether readings of a sensor are accepted. -/
def Accepting (id : SensorId) (world : World Tables) : Prop :=
  ∃ row, find? world.store.sensors id = some row ∧ row.isActive = true

variable {policy : StalenessPolicy} {message : Message} {context : MessageContext}
  {before world shut reached after : World Tables} {id : SensorId} {shown : Standing}
  {bar : Instant} {outcome final : Outcome}

/-! ## The time of the last change -/

/-- Whether the last change of a stored sensor was at a time or later. -/
def ChangedSince (id : SensorId) (bar : Instant) (world : World Tables) : Prop :=
  ∃ shown, Shows id shown world ∧ bar ≤ shown.since

theorem ChangedSince.handle (changed : ChangedSince id bar world)
    (about : sensorOf? message = some id) (context : MessageContext) :
    ∃ outcome after, Inbox.handle policy message context world = (.ok outcome, after) ∧
      ChangedSince id bar after := by
  obtain ⟨shown, shows, since⟩ := changed
  obtain ⟨outcome, after, next, handled, shows, step⟩ := shows.handle about context
  exact ⟨outcome, after, handled, next, shows, le_trans since step.since_le⟩

/-- A deactivation leaves its own time or a later one behind, unless the sensor is deactivated
already. -/
theorem Shows.deactivate {event : Event.SensorDeactivated} (shows : Shows id shown world)
    (real : id.isNil = false) (about : event.sensorId = id) (context : MessageContext) :
    ∃ outcome after, Inbox.handle policy (.sensorDeactivated event) context world =
        (.ok outcome, after) ∧
      ChangedSince id (if outcome = .duplicate then shown.since else event.occurredOn) after := by
  obtain ⟨unset, row, found, shows⟩ := shows
  subst about
  have checked : event.check = .ok () := by
    rw [Event.SensorDeactivated.check, real]
    rfl
  have told : sensorRule? policy (.sensorDeactivated event) = some (sensorDeactivation event) := by
    rw [sensorRule?, checked]
    rfl
  obtain ⟨after, handled, unset, left⟩ := handle_of_sensorRule told context unset
  change find? world.store.sensors (sensorDeactivation event).id = some row at found
  rw [found] at handled left
  refine ⟨_, after, handled, ?_⟩
  rcases (sensorDeactivation event).next_cases row world.now.time with
    ⟨-, duplicate, kept⟩ | ⟨outdated, stale, kept⟩ | ⟨-, applied, changed⟩
  · rw [duplicate, if_pos rfl]
    exact ⟨shown, ⟨unset, row, left.trans kept, shows⟩, le_refl _⟩
  · obtain ⟨-, -, since⟩ := Standing.ofRow?_eq_some shows
    have older : event.occurredOn < shown.since := by
      simpa [sensorDeactivation, SensorSnapshot.isOlderThanLastChange, since] using outdated
    rw [stale, if_neg (by decide)]
    exact ⟨shown, ⟨unset, row, left.trans kept, shows⟩, le_of_lt older⟩
  · rw [applied, if_neg (by decide)]
    exact ⟨_, ⟨unset, _, left.trans changed, rfl⟩, le_refl _⟩

/-! ## What opens a sensor -/

/-- A status change that is older than what a sensor shows leaves its row alone. -/
theorem sensorAfter_of_older {event : Event.SensorOperationalStatusChanged} {row : SensorSnapshot}
    (shows : Standing.ofRow? row = some shown) (older : event.occurredOn < shown.since)
    (now : Instant) :
    sensorAfter policy (.sensorOperationalStatusChanged event) (some row) now = some row := by
  obtain ⟨-, -, since⟩ := Standing.ofRow?_eq_some shows
  rw [sensorAfter, sensorRule?]
  cases event.check with
  | error reason => rfl
  | ok status =>
    have outdated : (statusChange event policy status).outdates row = true := by
      simpa [statusChange, SensorSnapshot.isOlderThanLastChange, since] using older
    simp [Except.toOption, Rule.next, outdated]

/-- Only the news that a sensor is active opens it, and only when they are no older than what it
shows. -/
theorem StatusStep.opens {next : Standing} (step : StatusStep message shown next)
    (was : shown.isActive = false) (is : next.isActive = true) :
    ∃ event, message = .sensorOperationalStatusChanged event ∧
      SensorStatus.ofText event.newStatus = .ok .active ∧ shown.since ≤ event.occurredOn := by
  cases step with
  | kept =>
    rw [was] at is
    cases is
  | deactivated told current => cases is
  | @changed event status told named current =>
    obtain rfl : status = .active := by simpa [Standing.ofStatus, SensorStatus.isActive] using is
    exact ⟨event, told, named, current⟩

theorem Shows.accepting_iff (shows : Shows id shown world) :
    Accepting id world ↔ shown.isActive = true := by
  obtain ⟨-, row, found, shows⟩ := shows
  obtain ⟨-, active, -⟩ := Standing.ofRow?_eq_some shows
  constructor
  · rintro ⟨other, there, accepts⟩
    cases there.symm.trans found
    exact active.symm.trans accepts
  · intro accepts
    exact ⟨row, found, active.trans accepts⟩

/-- What a message about a sensor does once the last change was at a time or later: a status change
from before that time does nothing, and what opens the sensor is not from before it. -/
theorem ChangedSince.bars (changed : ChangedSince id bar reached)
    (about : sensorOf? message = some id)
    (handled : Inbox.handle policy message context reached = (.ok final, after)) :
    (∀ change, message = .sensorOperationalStatusChanged change → change.occurredOn < bar →
      find? after.store.sensors id = find? reached.store.sensors id) ∧
    (¬ Accepting id reached → Accepting id after →
      ∃ change, message = .sensorOperationalStatusChanged change ∧
        SensorStatus.ofText change.newStatus = .ok .active ∧ bar ≤ change.occurredOn) := by
  obtain ⟨shown, shows, since⟩ := changed
  constructor
  · rintro change rfl older
    obtain ⟨unset, row, found, shown⟩ := shows
    obtain ⟨_, _, again, -, left⟩ := handle_sensor about context unset
    cases again.symm.trans handled
    rw [found] at left ⊢
    exact left.trans (sensorAfter_of_older shown (lt_of_lt_of_le older since) reached.now.time)
  · intro closed opened
    obtain ⟨_, _, next, again, showsNext, step⟩ := shows.handle about context
    cases again.symm.trans handled
    have was : shown.isActive = false := by
      simpa using mt shows.accepting_iff.mpr closed
    obtain ⟨change, told, named, current⟩ := step.opens was (showsNext.accepting_iff.mp opened)
    exact ⟨change, told, named, le_trans since current⟩

/-- In a run of deliveries about one sensor that is not stored before, once a deactivation was
handled while the sensor is stored, no status change that is older than the deactivation changes
the sensor again, and only the news that it is active, no older than the deactivation, make it
accept readings when it does not; where the sensor was deactivated already, the time of its last
change stands in for that of the deactivation. -/
theorem no_older_news_reopens {event : Event.SensorDeactivated} {earlier later : List Delivery}
    {firsts rests : List Outcome} {other : MessageContext} {sensor : SensorSnapshot}
    (unset : before.store.failNextCommit = false)
    (absent : find? before.store.sensors event.sensorId = none)
    (about : ∀ delivery ∈ earlier ++ later, sensorOf? delivery.message = some event.sensorId)
    (lastAbout : sensorOf? message = some event.sensorId)
    (first : handleAll policy earlier before = (.ok firsts, world))
    (found : find? world.store.sensors event.sensorId = some sensor)
    (deactivated : handle policy (.sensorDeactivated event) context world = (.ok outcome, shut))
    (rest : handleAll policy later shut = (.ok rests, reached))
    (last : handle policy message other reached = (.ok final, after)) :
    ∃ since, sensor.lastStatusChangeAt = some since ∧
      let bar := if outcome = .duplicate then since else event.occurredOn
      (∀ change, message = .sensorOperationalStatusChanged change → change.occurredOn < bar →
        find? after.store.sensors event.sensorId = find? reached.store.sensors event.sensorId) ∧
      (¬ Accepting event.sensorId reached → Accepting event.sensorId after →
        ∃ change, message = .sensorOperationalStatusChanged change ∧
          SensorStatus.ofText change.newStatus = .ok .active ∧ bar ≤ change.occurredOn) := by
  -- A stored sensor shows a status since some time, because this run has stored it.
  obtain ⟨_, _, ran, dated⟩ := handleAll_of_step (fun _ => Dated event.sensorId)
    (.inl ⟨unset, absent⟩) fun _ delivery member _ dated =>
      dated.handle (about delivery (List.mem_append_left _ member)) delivery.context
  cases ran.symm.trans first
  obtain ⟨real, shown, shows⟩ :
      event.sensorId.isNil = false ∧ ∃ shown, Shows event.sensorId shown world := by
    rcases dated with ⟨-, none⟩ | stored
    · rw [none] at found
      cases found
    · exact stored
  have since : sensor.lastStatusChangeAt = some shown.since := by
    obtain ⟨-, row, there, shows⟩ := shows
    cases there.symm.trans found
    exact (Standing.ofRow?_eq_some shows).2.2
  refine ⟨shown.since, since, ?_⟩
  -- The deactivation leaves the bar behind, and nothing that is handled later lowers it.
  obtain ⟨_, _, handled, changed⟩ := shows.deactivate real rfl context
  cases handled.symm.trans deactivated
  obtain ⟨_, _, ran, changed⟩ := handleAll_of_step (fun _ => ChangedSince event.sensorId _) changed
    fun _ delivery member _ changed =>
      changed.handle (about delivery (List.mem_append_right _ member)) delivery.context
  cases ran.symm.trans rest
  exact changed.bars lastAbout last

/-! ## A well -/

/-- The sensor in the well is taken out of use, ten minutes later. -/
def wellClosed : Event.SensorDeactivated :=
  ⟨⟨14⟩, ⟨600, 0, by decide, by decide, by decide⟩, ⟨1⟩, ⟨4⟩, ⟨3⟩, some "removed", none⟩

/-- It is repaired, another ten minutes later. -/
def wellRepaired : Event.SensorOperationalStatusChanged :=
  ⟨⟨15⟩, ⟨1200, 0, by decide, by decide, by decide⟩, ⟨1⟩, "Inactive", "Active", none, none⟩

/-- It is taken out of use for good, yet another ten minutes later. -/
def wellFilled : Event.SensorDeactivated :=
  ⟨⟨16⟩, ⟨1800, 0, by decide, by decide, by decide⟩, ⟨1⟩, ⟨4⟩, ⟨3⟩, some "scrapped", none⟩

def closedFarm : World Tables :=
  (handle .standard (.sensorDeactivated wellClosed) wellContext dugFarm).2

/-- The farm once the closed well was filled. -/
def filledFarm : World Tables :=
  (handle .standard (.sensorDeactivated wellFilled) wellContext closedFarm).2

/-- A farm once the repair was told. -/
def repaired (farm : World Tables) : World Tables :=
  (handle .standard (.sensorOperationalStatusChanged wellRepaired) wellContext farm).2

/-- The repair opens a well that was closed before it. -/
theorem repaired_well_opens :
    Accepting ⟨1⟩ (repaired closedFarm) ∧
    ∃ change, Message.sensorOperationalStatusChanged wellRepaired =
        .sensorOperationalStatusChanged change ∧
      SensorStatus.ofText change.newStatus = .ok .active ∧
      wellClosed.occurredOn ≤ change.occurredOn := by
  have dug : handleAll .standard [⟨.sensorRegistered wellDug, wellContext⟩] (.atRest .empty) =
      (.ok [.created], dugFarm) := rfl
  have closed : handle .standard (.sensorDeactivated wellClosed) wellContext dugFarm =
      (.ok .applied, closedFarm) := rfl
  have told : handle .standard (.sensorOperationalStatusChanged wellRepaired) wellContext
      closedFarm = (.ok .applied, repaired closedFarm) := rfl
  obtain ⟨since, -, -, opens⟩ := no_older_news_reopens rfl rfl (by decide) rfl dug rfl closed
    (rfl : handleAll .standard [] closedFarm = (.ok [], closedFarm)) told
  have shut : ¬ Accepting ⟨1⟩ closedFarm := by
    rintro ⟨row, found, active⟩
    cases found
    cases active
  have opened : Accepting ⟨1⟩ (repaired closedFarm) := ⟨_, rfl, rfl⟩
  exact ⟨opened, opens shut opened⟩

/-- The repair opens a well that was filled after it too, when it was closed before: the filling
leaves the closed well alone. -/
theorem repaired_well_opens_once_filled :
    handleAll .standard [⟨.sensorRegistered wellDug, wellContext⟩,
      ⟨.sensorDeactivated wellClosed, wellContext⟩] (.atRest .empty) =
        (.ok [.created, .applied], closedFarm) ∧
    handle .standard (.sensorDeactivated wellFilled) wellContext closedFarm =
      (.ok .duplicate, filledFarm) ∧
    handle .standard (.sensorOperationalStatusChanged wellRepaired) wellContext filledFarm =
      (.ok .applied, repaired filledFarm) ∧
    wellRepaired.occurredOn < wellFilled.occurredOn ∧
    ¬ Accepting ⟨1⟩ filledFarm ∧ Accepting ⟨1⟩ (repaired filledFarm) := by
  refine ⟨rfl, rfl, rfl, by decide, ?_, ?_⟩
  · rintro ⟨row, found, active⟩
    cases found
    cases active
  · exact ⟨_, rfl, rfl⟩

end Fieldwatch.Inbox
