import Fieldwatch.Inbox.Handling
import Fieldwatch.Proofs.Store.Rows

/-!
# Rules of events

The six kinds of event are decided in one way: where there is no row, one is made or nothing is
done; a row that shows the event already, or that has changed since, is left alone; any other row
is written. A `Rule` says what that means for one event, `SensorRuling` and `OwnerRuling` which rule
an event follows, and `Rule.Lawful` what the six have in common: a row that was made or written
shows the event.
-/
namespace Fieldwatch.Inbox

open Tables (find? overwrite placed write?)

/-- How one event is decided on the row of its identifier. -/
structure Rule (σ : Type) (kind : IdKind) where
  id : Id kind
  /-- Whether a row shows the event already. -/
  shows : σ → Bool
  /-- Whether a row has changed since the event. -/
  outdates : σ → Bool
  /-- The row after the event. -/
  change : σ → Instant → σ
  /-- The write that makes the change. -/
  write : σ → Instant → SnapshotWrite σ kind
  /-- The row that the event makes where there is none, if it makes one. -/
  create? : Option (Instant → σ)

namespace Rule

variable {σ : Type} {kind : IdKind}

/-- The decision of a rule, its writes staged in a change set. -/
def decide (rule : Rule σ kind) (stage : SnapshotWrite σ kind → ChangeSet) (stored : Option σ)
    (now : Instant) : Decision :=
  match stored with
  | none =>
    match rule.create? with
    | some create => .write (stage (.add (create now))) .created
    | none => .skip .notFound
  | some row =>
    if rule.shows row then .skip .duplicate
    else if rule.outdates row then .skip .stale
    else .write (stage (rule.write row now)) .applied

/-- What a rule keeps: a row made or changed has the identifier of the event and shows the event,
and the write of a change to a row that does not show the event overwrites that row. -/
structure Lawful [Snapshot σ kind] (rule : Rule σ kind) : Prop where
  id_create : ∀ {create}, rule.create? = some create → ∀ now, Snapshot.id (create now) = rule.id
  shows_create : ∀ {create}, rule.create? = some create → ∀ now, rule.shows (create now) = true
  id_change : ∀ row now, Snapshot.id (rule.change row now) = Snapshot.id row
  shows_change : ∀ row now, rule.shows (rule.change row now) = true
  write_change : ∀ {rows row}, find? rows rule.id = some row → rule.shows row = false →
    ∀ now, write? rows (rule.write row now) = some (overwrite rows (rule.change row now))

/-- The row that a rule leaves where a row is stored, or none. -/
def next (rule : Rule σ kind) (stored : Option σ) (now : Instant) : Option σ :=
  match stored with
  | none => rule.create?.map fun create => create now
  | some row => some (if rule.shows row || rule.outdates row then row else rule.change row now)

/-- The outcome of a rule where a row is stored, or none. -/
def outcome (rule : Rule σ kind) : Option σ → Outcome
  | none => if rule.create?.isSome then .created else .notFound
  | some row =>
    if rule.shows row then .duplicate else if rule.outdates row then .stale else .applied

/-- A stored row is passed over when it shows or outdates the event, and else changed. -/
theorem next_cases (rule : Rule σ kind) (row : σ) (now : Instant) :
    rule.shows row = true ∧ rule.outcome (some row) = .duplicate ∧
        rule.next (some row) now = some row ∨
      rule.outdates row = true ∧ rule.outcome (some row) = .stale ∧
        rule.next (some row) now = some row ∨
      rule.outdates row = false ∧ rule.outcome (some row) = .applied ∧
        rule.next (some row) now = some (rule.change row now) := by
  cases shown : rule.shows row with
  | true => simp [outcome, next, shown]
  | false => cases outdated : rule.outdates row <;> simp [outcome, next, shown, outdated]

/-- The write that a rule stages where a row is stored, or none; nothing when it passes the row
over. -/
def staged? (rule : Rule σ kind) (stored : Option σ) (now : Instant) :
    Option (SnapshotWrite σ kind) :=
  match stored with
  | none => rule.create?.map fun create => .add (create now)
  | some row => if rule.shows row || rule.outdates row then none else some (rule.write row now)

theorem decide_eq (rule : Rule σ kind) (stage : SnapshotWrite σ kind → ChangeSet)
    (stored : Option σ) (now : Instant) : rule.decide stage stored now =
      match rule.staged? stored now with
      | none => .skip (rule.outcome stored)
      | some write => .write (stage write) (rule.outcome stored) := by
  cases stored with
  | none => cases made : rule.create? <;> simp [decide, staged?, outcome, made]
  | some row =>
    cases shown : rule.shows row with
    | true => simp [decide, staged?, outcome, shown]
    | false =>
      cases outdated : rule.outdates row <;> simp [decide, staged?, outcome, shown, outdated]

/-- A rule stages a write exactly when its outcome is one, whatever the clock tells. -/
theorem isWrite_outcome (rule : Rule σ kind) (stored : Option σ) (now : Instant) :
    (rule.outcome stored).isWrite = (rule.staged? stored now).isSome := by
  cases stored with
  | none => cases made : rule.create? <;> simp [staged?, outcome, made, Outcome.isWrite]
  | some row =>
    cases shown : rule.shows row with
    | true => simp [staged?, outcome, shown, Outcome.isWrite]
    | false =>
      cases outdated : rule.outdates row <;>
        simp [staged?, outcome, shown, outdated, Outcome.isWrite]

theorem next_of_staged?_eq_none {rule : Rule σ kind} {stored : Option σ} {now : Instant}
    (nothing : rule.staged? stored now = none) : rule.next stored now = stored := by
  cases stored with
  | none => simpa [staged?, next] using nothing
  | some row =>
    rw [staged?] at nothing
    split at nothing
    · next passed => simp [next, passed]
    · cases nothing

/-- A rule that passes a row over does so at any time, and does not call it a write. -/
theorem decide_of_nothing {rule : Rule σ kind} {stage : SnapshotWrite σ kind → ChangeSet}
    {stored : Option σ} {now : Instant} (nothing : rule.staged? stored now = none)
    (later : Instant) : rule.decide stage stored later = .skip (rule.outcome stored) ∧
      (rule.outcome stored).isWrite = false := by
  have notWrite : (rule.outcome stored).isWrite = false := by
    rw [rule.isWrite_outcome stored now, nothing]
    rfl
  have still := rule.isWrite_outcome stored later
  rw [notWrite, eq_comm, Option.isSome_eq_false_iff, Option.isNone_iff_eq_none] at still
  rw [decide_eq, still]
  exact ⟨rfl, notWrite⟩

theorem decide_of_shows {rule : Rule σ kind} {stage : SnapshotWrite σ kind → ChangeSet} {row : σ}
    (shown : rule.shows row = true) (now : Instant) :
    rule.decide stage (some row) now = .skip .duplicate := by
  simp [decide, shown]

/-- What a rule stages: the addition of the row that it makes where there is none, or the write of
the change to a row that neither shows nor outdates the event. -/
theorem staged?_cases {rule : Rule σ kind} {stored : Option σ} {now : Instant}
    {write : SnapshotWrite σ kind} (staged : rule.staged? stored now = some write) :
    (∃ create, stored = none ∧ rule.create? = some create ∧ write = .add (create now)) ∨
      ∃ row, stored = some row ∧ rule.shows row = false ∧ rule.outdates row = false ∧
        write = rule.write row now := by
  cases stored with
  | none =>
    obtain ⟨create, made, rfl⟩ := Option.map_eq_some_iff.mp staged
    exact .inl ⟨create, rfl, made, rfl⟩
  | some row =>
    rw [staged?] at staged
    split at staged
    · cases staged
    · next fresh =>
      cases staged
      simp only [Bool.or_eq_true, not_or, Bool.not_eq_true] at fresh
      exact .inr ⟨row, rfl, fresh.1, fresh.2, rfl⟩

/-- What a lawful rule stages takes effect on the row that it was decided on, and leaves the next
row in its place, which shows the event. -/
theorem Lawful.write_staged [Snapshot σ kind] {rule : Rule σ kind} (lawful : rule.Lawful)
    {rows : List σ} {now : Instant} {write : SnapshotWrite σ kind}
    (staged : rule.staged? (find? rows rule.id) now = some write) :
    ∃ row, Snapshot.id row = rule.id ∧ rule.next (find? rows rule.id) now = some row ∧
      rule.shows row = true ∧ write? rows write = some (placed rows row) := by
  rcases staged?_cases staged with
    ⟨create, absent, made, rfl⟩ | ⟨row, found, shown, outdated, rfl⟩
  · have same := lawful.id_create made now
    refine ⟨create now, same, ?_, lawful.shows_create made now, Tables.write?_add absent same⟩
    simp [next, absent, made]
  · have same : Snapshot.id (rule.change row now) = rule.id :=
      (lawful.id_change row now).trans (Tables.id_of_find? found)
    refine ⟨rule.change row now, same, ?_, lawful.shows_change row now, ?_⟩
    · simp [next, found, shown, outdated]
    · rw [lawful.write_change found shown now, Tables.placed_of_found (same ▸ found)]

end Rule

/-! ## Sensors -/

/-- A registration: the row shows it when it has its details, and never outdates it. -/
def registration (event : Event.SensorRegistered) (status : SensorStatus) :
    Rule SensorSnapshot .sensor where
  id := event.sensorId
  shows sensor := sensor.details = event.details
  outdates _ := false
  change sensor now := sensor.withDetails event.details now
  write sensor now := .update (sensor.withDetails event.details now)
  create? := some fun now => .register event.sensorId event.details status event.occurredOn now

/-- A status change: the row shows it when it restates the status within the tolerance. -/
def statusChange (event : Event.SensorOperationalStatusChanged) (policy : StalenessPolicy)
    (status : SensorStatus) : Rule SensorSnapshot .sensor where
  id := event.sensorId
  shows sensor := sensor.isDuplicateStatus status event.occurredOn policy.tolerance
  outdates sensor := sensor.isOlderThanLastChange event.occurredOn
  change sensor now := sensor.changeStatus status event.reason event.occurredOn now
  write sensor now := .update (sensor.changeStatus status event.reason event.occurredOn now)
  create? := none

/-- A deactivation: the row shows it when it is inactive in status and liveness. -/
def sensorDeactivation (event : Event.SensorDeactivated) : Rule SensorSnapshot .sensor where
  id := event.sensorId
  shows sensor := sensor.isDeactivated
  outdates sensor := sensor.isOlderThanLastChange event.occurredOn
  change sensor now := sensor.changeStatus .inactive event.reason event.occurredOn now
  write sensor now := .update (sensor.changeStatus .inactive event.reason event.occurredOn now)
  create? := none

theorem decide_registration (event : Event.SensorRegistered) (status : SensorStatus) :
    event.decide status = (registration event status).decide ChangeSet.empty.writeSensor := by
  funext stored now
  rcases stored with _ | sensor
  · rfl
  · by_cases same : sensor.details = event.details <;>
      simp [Event.SensorRegistered.decide, SensorSnapshot.refresh?, Rule.decide, registration, same]

theorem decide_statusChange (event : Event.SensorOperationalStatusChanged)
    (policy : StalenessPolicy) (status : SensorStatus) :
    event.decide policy status =
      (statusChange event policy status).decide ChangeSet.empty.writeSensor := by
  funext stored now
  cases stored <;> rfl

theorem decide_sensorDeactivation (event : Event.SensorDeactivated) :
    event.decide = (sensorDeactivation event).decide ChangeSet.empty.writeSensor := by
  funext stored now
  cases stored <;> rfl

theorem registration_lawful (event : Event.SensorRegistered) (status : SensorStatus) :
    (registration event status).Lawful where
  id_create := by rintro _ ⟨⟩ now; rfl
  shows_create := by
    rintro _ ⟨⟩ now
    simp [registration, SensorSnapshot.details, SensorSnapshot.register]
  id_change _ _ := rfl
  shows_change sensor now := by
    simp [registration, SensorSnapshot.details, SensorSnapshot.withDetails]
  write_change found _ _ := Tables.write?_update found rfl

/-- A sensor shows the status it was given, whatever the tolerance. -/
theorem statusChange_lawful (event : Event.SensorOperationalStatusChanged)
    (policy : StalenessPolicy) (status : SensorStatus) :
    (statusChange event policy status).Lawful where
  id_create := by rintro _ ⟨⟩
  shows_create := by rintro _ ⟨⟩
  id_change _ _ := rfl
  shows_change sensor now := by
    simp [statusChange, SensorSnapshot.isDuplicateStatus, SensorSnapshot.changeStatus,
      withinTolerance_self event.occurredOn policy.nonneg]
  write_change found _ _ := Tables.write?_update found rfl

theorem sensorDeactivation_lawful (event : Event.SensorDeactivated) :
    (sensorDeactivation event).Lawful where
  id_create := by rintro _ ⟨⟩
  shows_create := by rintro _ ⟨⟩
  id_change _ _ := rfl
  shows_change _ _ := rfl
  write_change found _ _ := Tables.write?_update found rfl

/-! ## Owners -/

/-- A profile, which makes a row where there is none if `create?` says how: the row shows it when
it restates the profile within the tolerance. -/
def profile (id : OwnerId) (policy : StalenessPolicy) (details : OwnerDetails)
    (occurredOn : Instant) (create? : Option (Instant → OwnerSnapshot)) :
    Rule OwnerSnapshot .owner where
  id := id
  shows owner := owner.isDuplicate details occurredOn policy.tolerance
  outdates owner := owner.isOlderThanLastChange occurredOn
  change owner now := owner.updateDetails details occurredOn now
  write owner now := .update (owner.updateDetails details occurredOn now)
  create? := create?

def userCreation (event : Event.UserCreated) (policy : StalenessPolicy) (details : OwnerDetails) :
    Rule OwnerSnapshot .owner :=
  profile event.ownerId policy details event.occurredOn
    (some fun now => .create event.ownerId details event.occurredOn now)

def userUpdate (event : Event.UserUpdated) (policy : StalenessPolicy) (details : OwnerDetails) :
    Rule OwnerSnapshot .owner :=
  profile event.ownerId policy details event.occurredOn none

/-- The end of a user: the row shows it when it is inactive. -/
def userDeactivation (event : Event.UserDeactivated) : Rule OwnerSnapshot .owner where
  id := event.ownerId
  shows owner := !owner.isActive
  outdates owner := owner.isOlderThanLastChange event.occurredOn
  change owner now :=
    { owner with isActive := false, lastChangedAt := event.occurredOn, updatedAt := some now }
  write owner now := .delete owner.id event.occurredOn now
  create? := none

theorem decide_userCreation (event : Event.UserCreated) (policy : StalenessPolicy)
    (details : OwnerDetails) :
    event.decide policy details =
      (userCreation event policy details).decide ChangeSet.empty.writeOwner := by
  funext stored now
  cases stored <;> rfl

theorem decide_userUpdate (event : Event.UserUpdated) (policy : StalenessPolicy)
    (details : OwnerDetails) :
    event.decide policy details =
      (userUpdate event policy details).decide ChangeSet.empty.writeOwner := by
  funext stored now
  cases stored <;> rfl

theorem decide_userDeactivation (event : Event.UserDeactivated) :
    event.decide = (userDeactivation event).decide ChangeSet.empty.writeOwner := by
  funext stored now
  cases stored <;> rfl

/-- An owner shows the profile it was given, whatever the tolerance. -/
theorem isDuplicate_of_details {owner : OwnerSnapshot} {details : OwnerDetails}
    {occurredOn : Instant} (policy : StalenessPolicy) (same : owner.details = details)
    (changed : owner.lastChangedAt = occurredOn) :
    owner.isDuplicate details occurredOn policy.tolerance = true := by
  simp [OwnerSnapshot.isDuplicate, same, changed, withinTolerance_self occurredOn policy.nonneg]

theorem userCreation_lawful (event : Event.UserCreated) (policy : StalenessPolicy)
    (details : OwnerDetails) : (userCreation event policy details).Lawful where
  id_create := by rintro _ ⟨⟩ now; rfl
  shows_create := by rintro _ ⟨⟩ now; exact isDuplicate_of_details policy rfl rfl
  id_change _ _ := rfl
  shows_change _ _ := isDuplicate_of_details policy rfl rfl
  write_change found _ _ := Tables.write?_update found rfl

theorem userUpdate_lawful (event : Event.UserUpdated) (policy : StalenessPolicy)
    (details : OwnerDetails) : (userUpdate event policy details).Lawful where
  id_create := by rintro _ ⟨⟩
  shows_create := by rintro _ ⟨⟩
  id_change _ _ := rfl
  shows_change _ _ := isDuplicate_of_details policy rfl rfl
  write_change found _ _ := Tables.write?_update found rfl

theorem userDeactivation_lawful (event : Event.UserDeactivated) :
    (userDeactivation event).Lawful where
  id_create := by rintro _ ⟨⟩
  shows_create := by rintro _ ⟨⟩
  id_change _ _ := rfl
  shows_change _ _ := rfl
  write_change := by
    intro rows owner found active now
    refine Tables.write?_delete found ?_
    simp [userDeactivation] at active
    simp [Snapshot.retire?, OwnerSnapshot.deactivate?, active, userDeactivation]

/-! ## Which rule a message follows -/

/-- The sensor whose row a message is about. -/
def sensorOf? : Message → Option SensorId
  | .sensorRegistered event => some event.sensorId
  | .sensorDeactivated event => some event.sensorId
  | .sensorOperationalStatusChanged event => some event.sensorId
  | _ => none

/-- The owner whose row a message is about. -/
def ownerOf? : Message → Option OwnerId
  | .userCreated event => some event.ownerId
  | .userUpdated event => some event.ownerId
  | .userDeactivated event => some event.ownerId
  | _ => none

/-- The rule for a message about a sensor, unless the message is malformed. -/
def sensorRule? (policy : StalenessPolicy) : Message → Option (Rule SensorSnapshot .sensor)
  | .sensorRegistered event => event.check.toOption.map (registration event)
  | .sensorDeactivated event => event.check.toOption.map fun _ => sensorDeactivation event
  | .sensorOperationalStatusChanged event => event.check.toOption.map (statusChange event policy)
  | _ => none

/-- The rule for a message about an owner, unless the message is malformed. -/
def ownerRule? (policy : StalenessPolicy) : Message → Option (Rule OwnerSnapshot .owner)
  | .userCreated event => event.check.toOption.map (userCreation event policy)
  | .userUpdated event => event.check.toOption.map (userUpdate event policy)
  | .userDeactivated event => event.check.toOption.map fun _ => userDeactivation event
  | _ => none

/-- The messages about sensors that passed their checks, with their rules. -/
inductive SensorRuling (policy : StalenessPolicy) : Message → Rule SensorSnapshot .sensor → Prop
  | registration {event : Event.SensorRegistered} {status : SensorStatus}
    (checked : event.check = .ok status) :
    SensorRuling policy (.sensorRegistered event) (registration event status)
  | statusChange {event : Event.SensorOperationalStatusChanged} {status : SensorStatus}
    (checked : event.check = .ok status) :
    SensorRuling policy (.sensorOperationalStatusChanged event) (statusChange event policy status)
  | deactivation {event : Event.SensorDeactivated} (checked : event.check = .ok ()) :
    SensorRuling policy (.sensorDeactivated event) (sensorDeactivation event)

inductive OwnerRuling (policy : StalenessPolicy) : Message → Rule OwnerSnapshot .owner → Prop
  | creation {event : Event.UserCreated} {details : OwnerDetails}
    (checked : event.check = .ok details) :
    OwnerRuling policy (.userCreated event) (userCreation event policy details)
  | update {event : Event.UserUpdated} {details : OwnerDetails}
    (checked : event.check = .ok details) :
    OwnerRuling policy (.userUpdated event) (userUpdate event policy details)
  | deactivation {event : Event.UserDeactivated} (checked : event.check = .ok ()) :
    OwnerRuling policy (.userDeactivated event) (userDeactivation event)

variable {policy : StalenessPolicy} {message : Message}

theorem checked_of_rule? {α β : Type} {checked : Except String α} {rules : α → β} {rule : β}
    (told : checked.toOption.map rules = some rule) :
    ∃ value, checked = .ok value ∧ rules value = rule := by
  cases checked with
  | error reason => cases told
  | ok value => exact ⟨value, rfl, Option.some.inj told⟩

theorem sensorRuling_of_rule? {rule : Rule SensorSnapshot .sensor}
    (told : sensorRule? policy message = some rule) : SensorRuling policy message rule := by
  cases message with
  | sensorRegistered event =>
    obtain ⟨status, checked, rfl⟩ := checked_of_rule? told
    exact .registration checked
  | sensorDeactivated event =>
    obtain ⟨_, checked, rfl⟩ := checked_of_rule? told
    exact .deactivation checked
  | sensorOperationalStatusChanged event =>
    obtain ⟨status, checked, rfl⟩ := checked_of_rule? told
    exact .statusChange checked
  | sensorIngested _ | userCreated _ | userUpdated _ | userDeactivated _ | alertRaised _
  | alertAcknowledged _ | alertResolved _ => cases told

theorem ownerRuling_of_rule? {rule : Rule OwnerSnapshot .owner}
    (told : ownerRule? policy message = some rule) : OwnerRuling policy message rule := by
  cases message with
  | userCreated event =>
    obtain ⟨details, checked, rfl⟩ := checked_of_rule? told
    exact .creation checked
  | userUpdated event =>
    obtain ⟨details, checked, rfl⟩ := checked_of_rule? told
    exact .update checked
  | userDeactivated event =>
    obtain ⟨_, checked, rfl⟩ := checked_of_rule? told
    exact .deactivation checked
  | sensorIngested _ | sensorRegistered _ | sensorDeactivated _ | sensorOperationalStatusChanged _
  | alertRaised _ | alertAcknowledged _ | alertResolved _ => cases told

/-- A message about a sensor that follows a rule is planned as the rule decides. -/
theorem SensorRuling.plan {rule : Rule SensorSnapshot .sensor}
    (ruling : SensorRuling policy message rule) :
    Plan.ofMessage policy message =
      .onSensor rule.id (rule.decide ChangeSet.empty.writeSensor) := by
  cases ruling with
  | registration checked =>
    rw [Plan.ofMessage, checked, Plan.ofCheck, decide_registration]
    rfl
  | statusChange checked =>
    rw [Plan.ofMessage, checked, Plan.ofCheck, decide_statusChange]
    rfl
  | deactivation checked =>
    rw [Plan.ofMessage, checked, Plan.ofCheck, decide_sensorDeactivation]
    rfl

theorem OwnerRuling.plan {rule : Rule OwnerSnapshot .owner}
    (ruling : OwnerRuling policy message rule) :
    Plan.ofMessage policy message = .onOwner rule.id (rule.decide ChangeSet.empty.writeOwner) := by
  cases ruling with
  | creation checked =>
    rw [Plan.ofMessage, checked, Plan.ofCheck, decide_userCreation]
    rfl
  | update checked =>
    rw [Plan.ofMessage, checked, Plan.ofCheck, decide_userUpdate]
    rfl
  | deactivation checked =>
    rw [Plan.ofMessage, checked, Plan.ofCheck, decide_userDeactivation]
    rfl

theorem SensorRuling.lawful {rule : Rule SensorSnapshot .sensor}
    (ruling : SensorRuling policy message rule) : rule.Lawful := by
  cases ruling with
  | registration _ => exact registration_lawful _ _
  | statusChange _ => exact statusChange_lawful _ _ _
  | deactivation _ => exact sensorDeactivation_lawful _

theorem OwnerRuling.lawful {rule : Rule OwnerSnapshot .owner}
    (ruling : OwnerRuling policy message rule) : rule.Lawful := by
  cases ruling with
  | creation _ => exact userCreation_lawful _ _ _
  | update _ => exact userUpdate_lawful _ _ _
  | deactivation _ => exact userDeactivation_lawful _

theorem SensorRuling.about {rule : Rule SensorSnapshot .sensor}
    (ruling : SensorRuling policy message rule) : sensorOf? message = some rule.id := by
  cases ruling <;> rfl

theorem OwnerRuling.about {rule : Rule OwnerSnapshot .owner}
    (ruling : OwnerRuling policy message rule) : ownerOf? message = some rule.id := by
  cases ruling <;> rfl

/-- A message about a sensor for which there is no rule is passed over. -/
theorem plan_of_malformed {id : SensorId} (about : sensorOf? message = some id)
    (malformed : sensorRule? policy message = none) :
    ∃ reason, Plan.ofMessage policy message = .done (.invalid reason) := by
  cases message with
  | sensorRegistered event | sensorDeactivated event | sensorOperationalStatusChanged event =>
    rw [sensorRule?] at malformed
    rw [Plan.ofMessage]
    cases checked : event.check with
    | error reason => exact ⟨reason, rfl⟩
    | ok _ => simp [checked, Except.toOption] at malformed
  | sensorIngested _ | userCreated _ | userUpdated _ | userDeactivated _ | alertRaised _
  | alertAcknowledged _ | alertResolved _ => cases about

theorem plan_of_malformedOwner {id : OwnerId} (about : ownerOf? message = some id)
    (malformed : ownerRule? policy message = none) :
    ∃ reason, Plan.ofMessage policy message = .done (.invalid reason) := by
  cases message with
  | userCreated event | userUpdated event | userDeactivated event =>
    rw [ownerRule?] at malformed
    rw [Plan.ofMessage]
    cases checked : event.check with
    | error reason => exact ⟨reason, rfl⟩
    | ok _ => simp [checked, Except.toOption] at malformed
  | sensorIngested _ | sensorRegistered _ | sensorDeactivated _ | sensorOperationalStatusChanged _
  | alertRaised _ | alertAcknowledged _ | alertResolved _ => cases about

/-- What is done with a message: it is passed over without a write, or follows a rule on the sensor
or the owner that it is about. -/
theorem ruling_cases (policy : StalenessPolicy) (message : Message) :
    (∃ outcome, outcome.isWrite = false ∧ Plan.ofMessage policy message = .done outcome) ∨
      (∃ rule, SensorRuling policy message rule) ∨ ∃ rule, OwnerRuling policy message rule := by
  cases about : sensorOf? message with
  | some id =>
    cases told : sensorRule? policy message with
    | none =>
      obtain ⟨reason, plan⟩ := plan_of_malformed about told
      exact .inl ⟨_, rfl, plan⟩
    | some rule => exact .inr (.inl ⟨rule, sensorRuling_of_rule? told⟩)
  | none =>
    cases aboutOwner : ownerOf? message with
    | some id =>
      cases told : ownerRule? policy message with
      | none =>
        obtain ⟨reason, plan⟩ := plan_of_malformedOwner aboutOwner told
        exact .inl ⟨_, rfl, plan⟩
      | some rule => exact .inr (.inr ⟨rule, ownerRuling_of_rule? told⟩)
    | none =>
      cases message with
      | sensorIngested _ | alertRaised _ | alertAcknowledged _ | alertResolved _ =>
        exact .inl ⟨.ignored, rfl, rfl⟩
      | sensorRegistered _ | sensorDeactivated _ | sensorOperationalStatusChanged _ => cases about
      | userCreated _ | userUpdated _ | userDeactivated _ => cases aboutOwner

end Fieldwatch.Inbox
