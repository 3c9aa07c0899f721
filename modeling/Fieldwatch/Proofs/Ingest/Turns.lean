import Fieldwatch.Proofs.Ingest.Parts

/-!
# One reading of a batch

In its turn, a reading of a batch is refused if it would be refused alone, and for the same reason.
Otherwise it stages what it would commit alone with the identifiers that are next, except that its
events name the batch as their source.
-/
namespace Fieldwatch

/-- Whether a clock tells one moment whenever it is read. -/
def Clock.Tells (clock : Clock) (moment : Instant) : Prop :=
  ∀ count, clock.tell count = moment

namespace Ingest

open Tables (find?)

variable {σ : Type} {rules : Option AlertRules} {context : OperationContext} {source : String}

/-! ## Why a reading is refused -/

def isActive (tables : Tables) (id : SensorId) : Bool :=
  (find? tables.sensors id).any SensorSnapshot.isActive

/-- The alerts that rules ask for on what is measured. -/
def asked (rules : Option AlertRules) (input : NewReading) : List NewAlert :=
  match rules with
  | some rules => rules.evaluate input.sensorId input.metrics
  | none => []

/-- Why alerts cannot all be raised. -/
def faultOf? (asked : List NewAlert) : Option IngestError :=
  asked.findSome? fun new =>
    if (Alert.faults new).isEmpty then none else some (.validation (Alert.faults new))

/-- Why a reading is refused: for a fault of its own, else for want of an active sensor, else for a
fault of an alert that rules ask for. -/
def refusal? (rules : Option AlertRules) (tables : Tables) (moment : Instant) (input : NewReading) :
    Option IngestError :=
  if (Reading.faults input moment).isEmpty then
    if isActive tables input.sensorId then faultOf? (asked rules input)
    else some (.sensorNotFound input.sensorId)
  else some (.validation (Reading.faults input moment))

/-- Whether a reading is refused for a fault of an alert that rules ask for, and for nothing
else. -/
def isForAlert (rules : Option AlertRules) (tables : Tables) (moment : Instant)
    (input : NewReading) : Bool :=
  (Reading.faults input moment).isEmpty && isActive tables input.sensorId &&
    (faultOf? (asked rules input)).isSome

theorem isRejection_of_faultOf? {asked : List NewAlert} {error : IngestError}
    (found : faultOf? asked = some error) : error.isRejection = true := by
  obtain ⟨new, -, fault⟩ := List.exists_of_findSome?_eq_some found
  split at fault
  · cases fault
  · cases fault
    rfl

theorem isRejection_of_refusal? {tables : Tables} {moment : Instant} {input : NewReading}
    {error : IngestError} (refused : refusal? rules tables moment input = some error) :
    error.isRejection = true := by
  unfold refusal? at refused
  split at refused
  · split at refused
    · exact isRejection_of_faultOf? refused
    · cases refused
      rfl
  · cases refused
    rfl

theorem refusal?_eq_none_iff {tables : Tables} {moment : Instant} {input : NewReading} :
    refusal? rules tables moment input = none ↔ (Reading.faults input moment).isEmpty = true ∧
      isActive tables input.sensorId = true ∧ faultOf? (asked rules input) = none := by
  unfold refusal?
  split
  · next sound =>
    split
    · next active => simp [sound, active]
    · next inactive => simp [inactive]
  · next faulty => simp [faulty]

/-- What rules ask for on a new reading, they ask for on its input. -/
theorem askedFor_of_create {id : EntityId} {input : NewReading} {now : Instant} {reading : Reading}
    (created : Reading.create id input now = .ok reading) :
    askedFor rules reading = asked rules input := by
  have known := state_of_toRecord? (record_of_create created).1
  cases rules with
  | none => rfl
  | some rules => rw [askedFor, AlertRules.evaluateReading, known]; rfl

/-! ## Raising -/

theorem raise_apply (new : NewAlert) (world : World σ) :
    (do let id ← Task.freshId .entity
        Task.ofExcept ((Alert.raise id new (← Task.now)).mapError .validation) :
          Task σ IngestError Alert) world =
      ((Alert.raise (world.ids.peek 0 .entity) new world.now.time).mapError .validation,
        { world with
          now := world.now.next, ids := { world.ids with used := world.ids.used + 1 } }) := rfl

theorem raiseAll_of_fault {asked : List NewAlert} {error : IngestError}
    (found : faultOf? asked = some error) (world : World σ) :
    ∃ after, raiseAll asked world = (.error error, after) := by
  induction asked generalizing world with
  | nil => cases found
  | cons new rest ih =>
    rw [faultOf?, List.findSome?_cons] at found
    rw [raiseAll, List.mapM_cons, Task.bind_apply, raise_apply]
    by_cases sound : (Alert.faults new).isEmpty = true
    · rw [if_pos sound] at found
      simp only [Alert.raise, Faults.accept, sound, if_true, Except.mapError]
      obtain ⟨after, failed⟩ := ih found _
      exact ⟨after, Task.bind_of_error failed⟩
    · rw [if_neg sound] at found
      cases found
      simp only [Alert.raise, Faults.accept, sound, Except.mapError]
      exact ⟨_, rfl⟩

/-- Whether a save is of an alert that was raised as asked for. -/
def RaisedFrom (new : NewAlert) (write : AlertWrite) : Prop :=
  ∃ id now alert, Alert.raise id new now = .ok alert ∧
    alert.state.toRecord? = some write.record

/-- Alerts without a fault are all raised, each with a save of a new row under an identifier drawn
for it. -/
theorem raiseAll_of_sound {asked : List NewAlert} (sound : faultOf? asked = none)
    (world : World σ) :
    ∃ alerts writes after, raiseAll asked world = (.ok alerts, after) ∧
      List.Forall₂ RaisedFrom asked writes ∧
      List.Forall₂ (fun alert write => Saved.write? (.alert alert) = some write) alerts writes ∧
      (∀ write ∈ writes, write.expected = 0) ∧
      DrawnInOrder world.ids.draw world.ids.used after.ids.used
        (writes.map fun write => write.record.id.value) := by
  induction asked generalizing world with
  | nil => exact ⟨[], [], world, rfl, .nil, .nil, by rintro _ ⟨⟩, .nil _ _ _⟩
  | cons new rest ih =>
    have all := List.findSome?_eq_none_iff.mp sound
    have here : (Alert.faults new).isEmpty = true := by
      simpa using all new List.mem_cons_self
    have others : faultOf? rest = none :=
      List.findSome?_eq_none_iff.mpr fun other later => all other (List.mem_cons_of_mem _ later)
    obtain ⟨alert, raised⟩ : ∃ alert,
        Alert.raise (world.ids.peek 0 .entity) new world.now.time = .ok alert := by
      simp [Alert.raise, Faults.accept, here]
    obtain ⟨record, adds, named⟩ := Alert.adds_of_raise raised
    obtain ⟨alerts, writes, after, ran, made, saves, expected, drawn⟩ := ih others
      { world with
        now := world.now.next, ids := { world.ids with used := world.ids.used + 1 } }
    obtain ⟨follows, -⟩ := (raiseAll_looks rest).readsOnly.of_eq ran
    refine ⟨alert :: alerts, ⟨record, alert.version, alert.pendingVersion⟩ :: writes, after, ?_,
      .cons ⟨_, _, alert, raised, adds.row⟩ made, .cons ?_ saves, ?_, ?_⟩
    · rw [raiseAll, List.mapM_cons, Task.bind_apply, raise_apply, raised]
      exact Task.bind_of_ok ran
    · rw [Saved.write?, adds.row]
      rfl
    · intro write member
      rcases List.mem_cons.mp member with rfl | later
      · exact adds.loaded
      · exact expected write later
    · have first : DrawnInOrder world.ids.draw world.ids.used (world.ids.used + 1)
          [record.id.value] := by
        rw [named]
        exact .singleton (Nat.le_refl _) (Nat.lt_succ_self _)
      exact first.append drawn (Nat.le_succ _) follows.used

/-! ## One reading -/

/-- Alerts that have rows are all staged. -/
theorem foldlM_stageNext_answers (visible : Text.isBlankText source = false) {alerts : List Alert}
    {writes : List AlertWrite}
    (saves : List.Forall₂ (fun alert write => Saved.write? (.alert alert) = some write)
      alerts writes) (staged : ChangeSet × Nat) (world : World σ) :
    ∃ answer after,
      alerts.foldlM (stageNext context source) staged world = (.ok answer, after) := by
  induction saves generalizing staged world with
  | nil => exact ⟨staged, world, rfl⟩
  | @cons alert write alerts writes here _ ih =>
    obtain ⟨changes, count⟩ := staged
    obtain ⟨record, recorded, -⟩ := Option.map_eq_some_iff.mp here
    have saved : changes.saveAlert alert = .ok { changes with
        alerts := changes.alerts ++ [⟨record, alert.version, alert.pendingVersion⟩] } := by
      rw [ChangeSet.saveAlert, recorded]
    obtain ⟨next, left, ran, -⟩ := ChangeSet.stages_alert visible context saved world
    have first : (stageNext context source (changes, count) alert : Task σ _ _) world =
        (.ok (next, count + alert.pending.length), left) := by
      rw [stageNext, saved]
      exact Task.bind_of_ok (Task.mapError_eq_ok.mpr ran)
    obtain ⟨answer, after, others⟩ := ih (next, count + alert.pending.length) left
    exact ⟨answer, after, by rw [List.foldlM_cons, Task.bind_of_ok first, others]⟩

theorem filterMap_write? {alerts : List Alert} {writes : List AlertWrite}
    (saves : List.Forall₂ (fun alert write => Saved.write? (.alert alert) = some write)
      alerts writes) : (alerts.map Saved.alert).filterMap Saved.write? = writes := by
  induction saves with
  | nil => rfl
  | cons here _ ih => rw [List.map_cons, List.filterMap_cons_some here, ih]

section Stage

variable {reading : Reading} {record : ReadingRecord}
  (recorded : reading.state.toRecord? = some record)
include recorded

theorem stage_of_fault {error : IngestError}
    (found : faultOf? (askedFor rules reading) = some error)
    (context : OperationContext) (world : World σ) :
    ∃ after, ∀ changes source,
      stage rules changes reading context source world = (.error (error, changes), after) := by
  obtain ⟨after, failed⟩ := raiseAll_of_fault found world
  refine ⟨after, fun changes source => ?_⟩
  have refused : (raiseAll (askedFor rules reading)).mapError (·, changes) world =
      (.error (error, changes), after) := by
    rw [Task.mapError_apply, failed]
    rfl
  rw [stage_eq rules changes recorded, Task.bind_of_error refused]

/-- A reading whose alerts have no fault is staged: its row, new rows of its alerts, and the entries
of their events. -/
theorem stage_of_sound (visible : Text.isBlankText source = false)
    (sound : faultOf? (askedFor rules reading) = none) (context : OperationContext)
    (world : World σ) :
    ∃ part ingested after,
      stage rules .empty reading context source world = (.ok (part, ingested), after) ∧
      ingested.readingId = record.id ∧ part.readings = [record] ∧
      List.Forall₂ RaisedFrom (askedFor rules reading) part.alerts ∧
      DrawnInOrder world.ids.draw world.ids.used after.ids.used
        (part.alerts.map fun write => write.record.id.value) ∧
      (∀ write ∈ part.alerts, write.expected = 0) ∧ part.sensors = [] ∧ part.owners = [] ∧
      DrawnInOrder world.ids.draw world.ids.used after.ids.used
        (part.outbox.map fun entry => entry.envelope.eventId.value) := by
  obtain ⟨alerts, writes, raised, raising, made, saves, expected, drawn⟩ :=
    raiseAll_of_sound sound world
  obtain ⟨⟨part, ingested⟩, after, staging⟩ : ∃ answer after,
      (stage rules .empty reading context source : Task σ _ _) world = (.ok answer, after) := by
    have added : ChangeSet.empty.addReading reading = .ok { readings := [record] } := by
      rw [ChangeSet.addReading, recorded]
      rfl
    obtain ⟨next, left, ran, -⟩ := ChangeSet.stages_reading visible context added raised
    obtain ⟨answer, after, others⟩ :=
      foldlM_stageNext_answers visible saves (next, reading.pending.length) left
    rw [stage_eq rules _ recorded, Task.bind_of_ok (Task.mapError_eq_ok.mpr raising), stageWith,
      added]
    exact ⟨_, after,
      (Task.bind_of_ok (Task.mapError_eq_ok.mpr ran)).trans (Task.bind_of_ok others)⟩
  -- That it was staged tells what was staged, of the same alerts.
  obtain ⟨_, _, raisingToo, follows, -, stages, same⟩ := stage_parts visible recorded staging
  cases raising.symm.trans raisingToo
  obtain ⟨raisedFollows, -⟩ := (raiseAll_looks _).readsOnly.of_eq raising
  have readings : part.readings = [record] := stages.readings.trans (records_group recorded alerts)
  have alerted : part.alerts = writes := by
    rw [stages.alerts, List.filterMap_cons_none rfl, filterMap_write? saves]
    rfl
  obtain ⟨entries, outbox, -, events⟩ := stages.outbox
  have outbox : part.outbox = entries := outbox
  rw [raisedFollows.draw] at events
  refine ⟨part, ingested, after, staging, by rw [same], readings, ?_, ?_, ?_, stages.sensors,
    stages.owners, ?_⟩
  · rw [alerted]
    exact made
  · rw [alerted]
    exact drawn.widen (Nat.le_refl _) follows.used
  · rw [alerted]
    exact expected
  · rw [outbox]
    exact events.widen raisedFollows.used (Nat.le_refl _)

end Stage

/-! ## One turn -/

/-- Whether the store and the time are as they were, and the supply is only drawn on. -/
structure OnlyLooked (world later : World Tables) : Prop where
  follows : world.Follows later
  store_eq : later.store = world.store
  tell_eq : later.now.tell = world.now.tell

namespace OnlyLooked

variable {world middle later : World Tables}

theorem refl (world : World Tables) : OnlyLooked world world := ⟨.refl world, rfl, rfl⟩

theorem trans (first : OnlyLooked world middle) (second : OnlyLooked middle later) :
    OnlyLooked world later :=
  ⟨first.follows.trans second.follows, second.store_eq.trans first.store_eq,
    second.tell_eq.trans first.tell_eq⟩

theorem of_looks {ε α : Type} {task : Task Tables ε α} {result : Except ε α}
    (looks : task.Looks) (answered : task world = (result, later)) : OnlyLooked world later := by
  obtain ⟨now, ids, store, counters⟩ := world
  obtain ⟨_, reads, used, up, left⟩ := looks now ids
  cases (left store counters).symm.trans answered
  exact ⟨⟨rfl, up⟩, rfl, rfl⟩

end OnlyLooked

/-- Commits what was staged, counts the readings accepted with it, and answers. -/
def concluding {α : Type} (changes : ChangeSet) (accepted : Nat) (answer : α) :
    Task Tables IngestError α := do
  let _ ← (Task.commit changes).mapError .store
  Task.count .readingsAccepted accepted
  return answer

/-- What the store takes is counted. -/
theorem concluding_of_ok {α : Type} {changes : ChangeSet} {world : World Tables}
    {receipt : CommitReceipt} {store : Tables}
    (taken : world.store.commit changes = (.ok receipt, store)) (accepted : Nat) (answer : α) :
    concluding changes accepted answer world = (.ok answer, { world with
      store, counters := (world.counters.add .eventsStaged receipt.outboxEntries).add
        .readingsAccepted accepted }) := by
  have committed : Backend.commit changes world.store = (.ok receipt, store) := taken
  rw [concluding, Task.bind_of_ok (Task.mapError_eq_ok.mpr (Task.commit_of_ok committed))]
  rfl

/-- New rows under new identifiers are stored, and counted. -/
theorem concluding_of_drawn {α : Type} {changes : ChangeSet} {world : World Tables}
    {draw : Nat → BitVec 128} {low high : Nat} (unset : world.store.failNextCommit = false)
    (unseen : world.store.Unseen draw low high) (drawn : changes.Drawn draw low high)
    (accepted : Nat) (answer : α) :
    ∃ entries, concluding changes accepted answer world = (.ok answer, { world with
      store := world.store.grown changes, counters :=
        (world.counters.add .eventsStaged entries).add .readingsAccepted accepted }) := by
  obtain ⟨receipt, taken⟩ := Tables.commit_of_drawn unset unseen drawn
  exact ⟨receipt.outboxEntries, concluding_of_ok taken accepted answer⟩

/-- What is staged is committed as the store takes it, and refused as the store refuses it. -/
theorem concluding_apply {α : Type} (changes : ChangeSet) (accepted : Nat) (answer : α)
    (world : World Tables) :
    (concluding changes accepted answer world).1 =
        ((world.store.commit changes).1.map fun _ => answer).mapError .store ∧
      (concluding changes accepted answer world).2.store = (world.store.commit changes).2 ∧
      (concluding changes accepted answer world).2.ids = world.ids := by
  rcases committed : world.store.commit changes with ⟨result, store⟩
  cases result with
  | ok receipt =>
    rw [concluding_of_ok committed]
    exact ⟨rfl, rfl, rfl⟩
  | error cause =>
    have refused : Backend.commit changes world.store = (.error cause, store) := committed
    have ran : (Task.commit changes).mapError IngestError.store world =
        (.error (.store cause), { world with store }) := by
      rw [Task.mapError_apply, Task.commit_of_error refused]
      rfl
    rw [concluding, Task.bind_of_error ran]
    exact ⟨rfl, rfl, rfl⟩

/-- The world once a reading has its identifier and the time. -/
def begun (world : World σ) : World σ :=
  { world with now := world.now.next, ids := { world.ids with used := world.ids.used + 1 } }

section Turn

variable {world : World Tables} {input : NewReading} {reading : Reading} {faults : Faults}

theorem stageOne_of_faults
    (created : Reading.create (world.ids.peek 0 .entity) input world.now.time = .error faults)
    (active : List SensorId) (changes : ChangeSet) :
    stageOne rules active changes input context world =
      (.error (.validation faults, changes), begun world) := by
  rw [stageOne, Task.bind_of_ok (Task.freshId_apply _ _), Task.bind_of_ok (Task.now_apply _)]
  dsimp only
  rw [created]
  rfl

theorem stageOne_of_created
    (created : Reading.create (world.ids.peek 0 .entity) input world.now.time = .ok reading)
    (active : List SensorId) (changes : ChangeSet) :
    stageOne rules active changes input context world =
      if input.sensorId ∈ active then
        stage rules changes reading context "IngestReadingBatch" (begun world)
      else (.error (.sensorNotFound input.sensorId, changes), begun world) := by
  rw [stageOne, Task.bind_of_ok (Task.freshId_apply _ _), Task.bind_of_ok (Task.now_apply _)]
  dsimp only
  rw [created]
  by_cases known : input.sensorId ∈ active
  · simp only [known, not_true, if_true, if_false]
    rfl
  · simp only [known, not_false_eq_true, if_true, if_false]
    rfl

/-- The world after a reading is refused alone, and counted under a reason. -/
def rejected (world : World σ) (reason : String) : World σ :=
  { world with counters := world.counters.add (.readingsRejected reason) 1 }

theorem ingest_of_faults
    (created : Reading.create (world.ids.peek 0 .entity) input world.now.time = .error faults) :
    ingest rules input context world =
      (.error (.validation faults), rejected (begun world) "validation") := by
  rw [ingest, Task.bind_of_ok (Task.freshId_apply _ _), Task.bind_of_ok (Task.now_apply _)]
  dsimp only
  rw [created]
  rfl

/-- A reading without a fault is committed as it is staged, if its sensor is active. -/
theorem ingest_of_created
    (created : Reading.create (world.ids.peek 0 .entity) input world.now.time = .ok reading) :
    ingest rules input context world =
      if isActive world.store input.sensorId then
        (do
          let staged ← (stage rules .empty reading context "IngestReading").mapError Prod.fst
          concluding staged.1 1 staged.2 : Task Tables IngestError _) (begun world)
      else
        (.error (.sensorNotFound input.sensorId), rejected (begun world) "sensor_not_found") := by
  have looked : (Task.access (Backend.sensorExists input.sensorId .activeOnly)).mapError
      IngestError.store (begun world) = (.ok (isActive world.store input.sensorId), begun world) :=
    sensorExists_apply input.sensorId .activeOnly (begun world)
  rw [ingest, Task.bind_of_ok (Task.freshId_apply _ _), Task.bind_of_ok (Task.now_apply _)]
  dsimp only
  rw [created]
  dsimp only
  cases active : isActive world.store input.sensorId with
  | true =>
    rw [active] at looked
    exact Task.bind_of_ok looked
  | false =>
    rw [active] at looked
    exact Task.bind_of_ok looked

/-- A reading that is refused is refused alone as in a batch, whatever was staged before it, which
it leaves as it is. Alone it is not counted if it is refused for a fault of an alert. -/
theorem turn_of_refused {error : IngestError}
    (refused : refusal? rules world.store world.now.time input = some error)
    (context : OperationContext) :
    ∃ later,
      ingest rules input context world = (.error error,
        if isForAlert rules world.store world.now.time input then later
        else rejected later error.reason) ∧
      ∀ active : List SensorId,
        (input.sensorId ∈ active ↔ isActive world.store input.sensorId = true) →
        ∀ changes, stageOne rules active changes input context world =
          (.error (error, changes), later) := by
  unfold refusal? at refused
  split at refused
  · next sound =>
    obtain ⟨reading, created⟩ : ∃ reading,
        Reading.create (world.ids.peek 0 .entity) input world.now.time = .ok reading :=
      ⟨_, if_pos sound⟩
    have alone : ingest rules input context world = _ := ingest_of_created created
    split at refused
    · next active =>
      obtain ⟨recorded, -⟩ := record_of_create created
      have fault := refused
      rw [← askedFor_of_create created] at fault
      obtain ⟨later, failed⟩ := stage_of_fault recorded fault context (begun world)
      refine ⟨later, ?_, fun known agrees changes => ?_⟩
      · have forAlert : isForAlert rules world.store world.now.time input = true := by
          simp [isForAlert, sound, active, refused]
        have staged : (stage rules .empty reading context "IngestReading").mapError Prod.fst
            (begun world) = (.error error, later) := by
          rw [Task.mapError_apply, failed]
          rfl
        rw [alone, if_pos active, Task.bind_of_error staged, if_pos forAlert]
      · rw [stageOne_of_created created, if_pos (agrees.mpr active), failed changes]
    · next inactive =>
      cases refused
      refine ⟨begun world, ?_, fun known agrees changes => ?_⟩
      · have own : ¬ isForAlert rules world.store world.now.time input = true := by
          simp [isForAlert, inactive]
        rw [alone, if_neg inactive, if_neg own]
        rfl
      · rw [stageOne_of_created created, if_neg (mt agrees.mp inactive)]
  · next faulty =>
    cases refused
    have created : Reading.create (world.ids.peek 0 .entity) input world.now.time =
        .error (Reading.faults input world.now.time) := if_neg faulty
    have own : ¬ isForAlert rules world.store world.now.time input = true := by
      simp [isForAlert, faulty]
    refine ⟨begun world, ?_, fun known _ changes => stageOne_of_faults created known changes⟩
    rw [ingest_of_faults created, if_neg own]
    rfl

/-- The row of a reading that is next. -/
def arrived (world : World σ) (input : NewReading) : ReadingRecord :=
  ⟨world.ids.peek 0 .entity, input.sensorId, input.time, input.metrics, world.now.time⟩

/-- A reading that is not refused stages in a batch what it would commit alone, but for the source
of its events. -/
theorem turn_of_accepted (accepted : refusal? rules world.store world.now.time input = none)
    (context : OperationContext) :
    ∃ part ingested later,
      part.Drawn world.ids.draw world.ids.used later.ids.used ∧
      part.readings = [arrived world input] ∧ ingested.readingId = (arrived world input).id ∧
      List.Forall₂ RaisedFrom (asked rules input) part.alerts ∧
      (∀ active : List SensorId, input.sensorId ∈ active → ∀ changes,
        stageOne rules active changes input context world =
          (.ok (changes.joined "IngestReadingBatch" part, ingested), later)) ∧
      ingest rules input context world = concluding part 1 ingested later := by
  obtain ⟨sound, active, unfaulty⟩ := refusal?_eq_none_iff.mp accepted
  obtain ⟨reading, created⟩ : ∃ reading,
      Reading.create (world.ids.peek 0 .entity) input world.now.time = .ok reading :=
    ⟨_, if_pos sound⟩
  obtain ⟨recorded, -⟩ := record_of_create created
  rw [← askedFor_of_create created] at unfaulty
  have named : Text.isBlankText "IngestReading" = false := by decide
  have namedToo : Text.isBlankText "IngestReadingBatch" = false := by decide
  obtain ⟨part, ingested, later, staged, identified, readings, raised, alerts, expected, sensors,
    owners, events⟩ := stage_of_sound recorded named unfaulty context (begun world)
  have looked := OnlyLooked.of_looks (stage_looks _ _ _ _ _) staged
  have up : world.ids.used + 1 ≤ later.ids.used := looked.follows.used
  rw [askedFor_of_create created] at raised
  refine ⟨part, ingested, later, ?_, readings, identified, raised, ?_, ?_⟩
  · refine ⟨?_, alerts.widen (Nat.le_succ _) (Nat.le_refl _), expected, sensors, owners,
      events.widen (Nat.le_succ _) (Nat.le_refl _)⟩
    rw [readings]
    exact .singleton (Nat.le_refl _) up
  · intro known member changes
    have joined := stage_joined (σ := Tables) namedToo named rules changes .empty recorded context
    rw [ChangeSet.joined_nil] at joined
    rw [stageOne_of_created created, if_pos member, joined, Task.map_apply, Task.mapError_apply,
      staged]
    rfl
  · rw [ingest_of_created created, if_pos active]
    exact Task.bind_of_ok (Task.mapError_eq_ok.mpr staged)

end Turn

end Ingest
end Fieldwatch
