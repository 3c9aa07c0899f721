import Fieldwatch.Proofs.Inbox.Settling
import Fieldwatch.Proofs.Sensor.Standing

/-!
# Sensors settle on the latest status

The status of a sensor ends up as the latest status change says, or as the registration did if that
is later, in whatever order the changes are delivered, however often each is, and whatever
registrations are delivered again in between. Only changes within the tolerance of each other could
be mistaken for each other, so all are taken to be apart.
-/
namespace Fieldwatch.Inbox

open Instant (Apart)
open Tables (find?)

namespace Standing

/-- The status that a change tells of, if its name is one. -/
def ofChange? (event : Event.SensorOperationalStatusChanged) : Option Standing :=
  (SensorStatus.ofText event.newStatus).toOption.map fun status =>
    ofStatus status event.reason event.occurredOn

/-- The status that a message tells a stored sensor. -/
def told? : Message → Option Standing
  | .sensorOperationalStatusChanged event => ofChange? event
  | _ => none

theorem ofChange?_of_named {event : Event.SensorOperationalStatusChanged} {status : SensorStatus}
    (named : SensorStatus.ofText event.newStatus = .ok status) :
    ofChange? event = some (ofStatus status event.reason event.occurredOn) := by
  rw [ofChange?, named]
  rfl

theorem ofChange?_eq_some {event : Event.SensorOperationalStatusChanged} {news : Standing}
    (tells : ofChange? event = some news) :
    ∃ status, SensorStatus.ofText event.newStatus = .ok status ∧
      news = ofStatus status event.reason event.occurredOn := by
  unfold ofChange? at tells
  cases named : SensorStatus.ofText event.newStatus with
  | error unknown =>
    rw [named] at tells
    cases tells
  | ok status =>
    rw [named] at tells
    cases tells
    exact ⟨status, rfl, rfl⟩

end Standing

/-! ## What each event does to the status -/

theorem statusChange_tells (event : Event.SensorOperationalStatusChanged) (policy : StalenessPolicy)
    (status : SensorStatus) :
    (statusChange event policy status).Tells policy.tolerance Standing.ofRow? Standing.since
      (.ofStatus status event.reason event.occurredOn) where
  change _ _ := rfl
  shows := by
    intro row shows
    obtain ⟨status, active, since⟩ := Standing.ofRow?_eq_some shows
    simp [statusChange, SensorSnapshot.isDuplicateStatus, status, active, since, Standing.ofStatus,
      withinTolerance_self event.occurredOn policy.nonneg]
  within := by
    intro row shown shows passed
    obtain ⟨-, -, since⟩ := Standing.ofRow?_eq_some shows
    simp only [statusChange, SensorSnapshot.isDuplicateStatus, since, Option.any_some,
      Bool.and_eq_true] at passed
    exact passed.2
  outdates := by
    intro row shown shows
    obtain ⟨-, -, since⟩ := Standing.ofRow?_eq_some shows
    simp [statusChange, SensorSnapshot.isOlderThanLastChange, since, Standing.ofStatus]

variable {policy : StalenessPolicy} {context : MessageContext} {before world : World Tables}

theorem sensorAfter_statusChange {event : Event.SensorOperationalStatusChanged}
    {status : SensorStatus} (real : event.sensorId.isNil = false)
    (named : SensorStatus.ofText event.newStatus = .ok status) (stored : Option SensorSnapshot)
    (now : Instant) : sensorAfter policy (.sensorOperationalStatusChanged event) stored now =
      (statusChange event policy status).next stored now := by
  have checked : event.check = .ok status := by
    rw [Event.SensorOperationalStatusChanged.check, named, real]
    rfl
  rw [sensorAfter, sensorRule?, checked]
  rfl

/-- A sensor that a registration made shows the status of the registration. -/
theorem shows_of_created {event : Event.SensorRegistered}
    (registered : handle policy (.sensorRegistered event) context before = (.ok .created, world)) :
    event.sensorId.isNil = false ∧ ∃ status, SensorStatus.ofText event.status = .ok status ∧
      Shows event.sensorId (.ofStatus status none event.occurredOn) world := by
  cases told : sensorRule? policy (.sensorRegistered event) with
  | none =>
    obtain ⟨reason, plan⟩ := plan_of_malformed rfl told
    rw [handle_of_done plan] at registered
    cases registered
  | some rule =>
    have unset := (sensorRuling_of_rule? told).governs.unset_of_write rfl registered
    obtain ⟨status, checked, rfl⟩ := checked_of_rule? told
    obtain ⟨real, -, named⟩ := of_check_registration checked
    obtain ⟨after, handled, unset, left⟩ := handle_of_sensorRule told context unset
    obtain ⟨made, rfl⟩ := Prod.mk.inj (registered.symm.trans handled)
    replace made := Except.ok.inj made
    change _ =
      (registration event status).outcome (find? before.store.sensors event.sensorId) at made
    change find? world.store.sensors event.sensorId =
      (registration event status).next (find? before.store.sensors event.sensorId) _ at left
    cases found : find? before.store.sensors event.sensorId with
    | none =>
      rw [found] at left
      exact ⟨real, status, named, unset, _, left, rfl⟩
    | some row =>
      rw [found, Rule.outcome] at made
      split_ifs at made

/-! ## Runs -/

variable {id : SensorId} {known : List Standing} {first shown news : Standing}

/-- A sensor takes in a status change when it is later than what it shows. -/
theorem Shows.takeIn {change : Event.SensorOperationalStatusChanged} (shows : Shows id shown world)
    (about : change.sensorId = id) (real : id.isNil = false)
    (tells : Standing.ofChange? change = some news)
    (apart : shown ≠ news → Apart policy.tolerance shown.since news.since)
    (context : MessageContext) :
    ∃ outcome after, Inbox.handle policy (.sensorOperationalStatusChanged change) context world =
        (.ok outcome, after) ∧ Shows id (later Standing.since shown news) after := by
  obtain ⟨unset, row, found, shows⟩ := shows
  subst about
  obtain ⟨outcome, after, handled, unset, left⟩ :=
    handle_sensor (rfl : sensorOf? (.sensorOperationalStatusChanged change) = some _) context unset
  obtain ⟨status, named, rfl⟩ := Standing.ofChange?_eq_some tells
  obtain ⟨row, next, shows⟩ := (statusChange_tells change policy status).next policy.nonneg shows
    apart world.now.time
  rw [sensorAfter_statusChange real named, found, next] at left
  exact ⟨outcome, after, handled, unset, row, left, shows⟩

/-- A message that tells a stored sensor of a known status, or of its registration. -/
def TellsOf (id : SensorId) (known : List Standing) (message : Message) : Prop :=
  (∃ change, message = .sensorOperationalStatusChanged change ∧ change.sensorId = id ∧
    ∃ news ∈ known, Standing.ofChange? change = some news) ∨
  ∃ again, message = .sensorRegistered again ∧ again.sensorId = id

theorem TellsOf.mem {message : Message} (tells : TellsOf id known message)
    (told : Standing.told? message = some news) : news ∈ known := by
  rcases tells with ⟨change, rfl, -, other, member, told'⟩ | ⟨again, rfl, -⟩
  · cases told'.symm.trans told
    exact member
  · cases told

/-- A sensor takes in what a message tells it, and registrations leave it as it is. -/
theorem Shows.hear {message : Message} (shows : Shows id shown world) (real : id.isNil = false)
    (tells : TellsOf id known message) (old : shown ∈ first :: known)
    (apart : (first :: known).Pairwise fun a b => Apart policy.tolerance a.since b.since)
    (context : MessageContext) :
    ∃ outcome after, Inbox.handle policy message context world = (.ok outcome, after) ∧
      Shows id (takenIn Standing.since Standing.told? shown message) after := by
  rcases tells with ⟨change, rfl, about, news, member, tells⟩ | ⟨again, rfl, rfl⟩
  · have symm : Std.Symm fun a b : Standing => Apart policy.tolerance a.since b.since :=
      ⟨fun _ _ => Apart.symm⟩
    have taken : takenIn Standing.since Standing.told? shown
        (.sensorOperationalStatusChanged change) = later Standing.since shown news := by
      rw [takenIn, Standing.told?, tells]
    rw [taken]
    have new : news ∈ first :: known := List.mem_cons_of_mem first member
    exact shows.takeIn about real tells (apart.forall old new) context
  · obtain ⟨outcome, after, next, handled, shows, step⟩ :=
      shows.handle (rfl : sensorOf? (.sensorRegistered again) = some _) context
    cases step with
    | kept => exact ⟨outcome, after, handled, shows⟩
    | changed told => cases told
    | deactivated told => cases told

/-- Status changes that are apart from each other and from a first status tell of standings that
are. -/
theorem pairwise_known (first : Standing) {changes : List Event.SensorOperationalStatusChanged}
    (apart : (first.since :: changes.map fun change => change.occurredOn).Pairwise
      (Apart policy.tolerance)) :
    (first :: changes.filterMap Standing.ofChange?).Pairwise fun a b =>
      Apart policy.tolerance a.since b.since := by
  refine pairwise_told (fun change news tells => ?_) first apart
  obtain ⟨_, -, rfl⟩ := Standing.ofChange?_eq_some tells
  rfl

/-- Once a sensor is registered, deliveries that tell of each of several status changes, in any
order and any number of times, and of registrations of the sensor, are all answered, and leave it
in the status of the latest: that of one of the changes, or that of the registration. -/
theorem status_settles_on_latest {registration : Event.SensorRegistered}
    {changes : List Event.SensorOperationalStatusChanged}
    (registered : handle policy (.sensorRegistered registration) context before =
      (.ok .created, world))
    (valid : ∀ change ∈ changes, change.sensorId = registration.sensorId ∧
      ∃ status, SensorStatus.ofText change.newStatus = .ok status)
    (apart : (registration.occurredOn :: changes.map fun change => change.occurredOn).Pairwise
      (Apart policy.tolerance)) :
    ∃ initial standing, SensorStatus.ofText registration.status = .ok initial ∧
      Latest Standing.since
        (.ofStatus initial none registration.occurredOn :: changes.filterMap Standing.ofChange?)
        standing ∧
      ∀ deliveries : List Delivery,
        (∀ change ∈ changes, ∃ delivery ∈ deliveries,
          delivery.message = .sensorOperationalStatusChanged change) →
        (∀ delivery ∈ deliveries,
          (∃ change ∈ changes, delivery.message = .sensorOperationalStatusChanged change) ∨
          ∃ again, delivery.message = .sensorRegistered again ∧
            again.sensorId = registration.sensorId) →
        ∃ outcomes after row, handleAll policy deliveries world = (.ok outcomes, after) ∧
          find? after.store.sensors registration.sensorId = some row ∧
          Standing.ofRow? row = some standing := by
  obtain ⟨real, status, named, shows⟩ := shows_of_created registered
  let initial : Standing := .ofStatus status none registration.occurredOn
  let known := changes.filterMap Standing.ofChange?
  obtain ⟨standing, latest⟩ : ∃ standing, Latest Standing.since (initial :: known) standing :=
    Latest.exists_of_cons _ _
  have knownApart := pairwise_known initial apart
  refine ⟨status, standing, named, latest, fun deliveries all only => ?_⟩
  have tells : ∀ delivery ∈ deliveries,
      TellsOf registration.sensorId known delivery.message := by
    intro delivery member
    rcases only delivery member with ⟨change, wanted, message⟩ | again
    · obtain ⟨about, status, named⟩ := valid change wanted
      exact .inl ⟨change, message, about, _,
        List.mem_filterMap.mpr ⟨change, wanted, Standing.ofChange?_of_named named⟩,
        Standing.ofChange?_of_named named⟩
    · exact .inr again
  have delivered : ∀ news ∈ known, ∃ delivery ∈ deliveries,
      Standing.told? delivery.message = some news := by
    intro news member
    obtain ⟨change, wanted, tells⟩ := List.mem_filterMap.mp member
    obtain ⟨delivery, there, message⟩ := all change wanted
    exact ⟨delivery, there, message ▸ tells⟩
  obtain ⟨outcomes, after, run, -, row, found, shows⟩ :=
    handleAll_settles shows latest knownApart delivered
      (fun delivery member _ => (tells delivery member).mem)
      fun delivery member _ old _ shows =>
        shows.hear real (tells delivery member) old knownApart delivery.context
  exact ⟨outcomes, after, row, run, found, shows⟩

/-- The news that the sensor in the well was serviced, five minutes later. -/
def wellServiced : Event.SensorOperationalStatusChanged :=
  ⟨⟨12⟩, ⟨300, 0, by decide, by decide, by decide⟩, ⟨1⟩, "Active", "Maintenance", none, none⟩

/-- The news that it broke down, ten minutes after that. -/
def wellBroken : Event.SensorOperationalStatusChanged :=
  ⟨⟨13⟩, ⟨900, 0, by decide, by decide, by decide⟩, ⟨1⟩, "Maintenance", "Faulty", some "drift",
    none⟩

/-- The news as they are delivered: the last first, and some of them twice. -/
def wellNews : List Delivery :=
  [⟨.sensorOperationalStatusChanged wellBroken, wellContext⟩,
    ⟨.sensorOperationalStatusChanged wellServiced, wellContext⟩,
    ⟨.sensorRegistered wellDug, wellContext⟩,
    ⟨.sensorOperationalStatusChanged wellServiced, wellContext⟩,
    ⟨.sensorOperationalStatusChanged wellBroken, wellContext⟩]

/-- The sensor is broken in the end. -/
theorem wellNews_settles : ∃ outcomes after row,
    handleAll .standard wellNews dugFarm = (.ok outcomes, after) ∧
    find? after.store.sensors ⟨1⟩ = some row ∧
    Standing.ofRow? row = some ⟨.faulty, false, some "drift", wellBroken.occurredOn⟩ := by
  have dug : handle .standard (.sensorRegistered wellDug) wellContext (.atRest .empty) =
      (.ok .created, dugFarm) := rfl
  have valid : ∀ change ∈ [wellServiced, wellBroken], change.sensorId = wellDug.sensorId ∧
      ∃ status, SensorStatus.ofText change.newStatus = .ok status := by
    intro change member
    rcases List.mem_pair.mp member with rfl | rfl
    · exact ⟨rfl, .maintenance, rfl⟩
    · exact ⟨rfl, .faulty, rfl⟩
  have all : ∀ change ∈ [wellServiced, wellBroken], ∃ delivery ∈ wellNews,
      delivery.message = .sensorOperationalStatusChanged change := by
    simp [wellNews]
  obtain ⟨initial, standing, named, latest, settles⟩ :=
    status_settles_on_latest dug valid (by decide)
  obtain ⟨outcomes, after, row, run, found, shows⟩ :=
    settles wellNews all (by simp [wellNews, wellDug])
  have known : [wellServiced, wellBroken].filterMap Standing.ofChange? =
      [⟨.maintenance, false, none, wellServiced.occurredOn⟩,
        ⟨.faulty, false, some "drift", wellBroken.occurredOn⟩] := rfl
  rw [known] at latest
  have broken : standing = ⟨.faulty, false, some "drift", wellBroken.occurredOn⟩ := by
    have since := latest.le ⟨.faulty, false, some "drift", wellBroken.occurredOn⟩ (by simp)
    rcases List.mem_cons.mp latest.mem with rfl | member
    · exact absurd since (by decide : ¬ wellBroken.occurredOn ≤ wellDug.occurredOn)
    · rcases List.mem_pair.mp member with rfl | rfl
      · exact absurd since (by decide)
      · rfl
  exact ⟨outcomes, after, row, run, found, broken ▸ shows⟩

end Fieldwatch.Inbox
