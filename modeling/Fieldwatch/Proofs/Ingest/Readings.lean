import Fieldwatch.Ingest.Readings
import Fieldwatch.Proofs.Ingest.Staging

/-!
# What readings stage

A reading that is accepted stages itself and the alerts that rules ask for, each with its event,
the reading first. One that is rejected leaves what was staged before it alone. A batch stages what
its accepted readings stage, one after the other, and passes over the rest.
-/
namespace Fieldwatch.Ingest

variable {σ : Type} {context : OperationContext} {source : String}

/-- The alerts that rules ask for on a reading. -/
def askedFor (rules : Option AlertRules) (reading : Reading) : List NewAlert :=
  match rules with
  | some rules => rules.evaluateReading reading.state
  | none => []

/-- Whether a reading was recorded from an input and the alerts that rules ask for were raised. -/
structure Accepted (rules : Option AlertRules) (input : NewReading) (reading : Reading)
    (alerts : List Alert) : Prop where
  recorded : ∃ id now, Reading.create id input now = .ok reading
  raised : List.Forall₂ (fun input alert => ∃ id now, Alert.raise id input now = .ok alert)
    (askedFor rules reading) alerts

/-- A reading that has a row is in the state that the row tells of. -/
theorem state_of_toRecord? {state : ReadingState} {record : ReadingRecord}
    (found : state.toRecord? = some record) :
    state = ⟨some record.id, some record.sensorId, some record.time, record.metrics,
      some record.recordedAt⟩ := by
  obtain ⟨id, sensorId, time, metrics, recordedAt⟩ := state
  simp only [ReadingState.toRecord?, Option.bind_eq_bind, Option.bind_eq_some_iff,
    Option.pure_def] at found
  obtain ⟨_, rfl, _, rfl, _, rfl, _, rfl, same⟩ := found
  cases same
  rfl

/-- A new reading has a row, and one event of the same identifier. -/
theorem record_of_create {id : EntityId} {input : NewReading} {now : Instant} {reading : Reading}
    (created : Reading.create id input now = .ok reading) :
    reading.state.toRecord? = some ⟨id, input.sensorId, input.time, input.metrics, now⟩ ∧
      reading.pending = [.recorded ⟨id, input.sensorId, input.time, input.metrics, now⟩] := by
  simp only [Reading.create, Faults.accept] at created
  split at created
  · cases created
    exact ⟨rfl, rfl⟩
  · cases created

theorem raiseAll_looks (inputs : List NewAlert) :
    Task.Looks (raiseAll inputs : Task σ IngestError (List Alert)) :=
  .mapM (fun _ => (Task.Looks.freshId _).bind fun _ =>
    Task.Looks.now.bind fun _ => .ofExcept _) inputs

/-- Every alert that is asked for is raised, or none is. -/
theorem raiseAll_eq_ok {inputs : List NewAlert} {alerts : List Alert} {world after : World σ}
    (answered : raiseAll inputs world = (.ok alerts, after)) :
    List.Forall₂ (fun input alert => ∃ id now, Alert.raise id input now = .ok alert)
      inputs alerts := by
  induction inputs generalizing alerts world with
  | nil =>
    cases answered
    exact .nil
  | cons input rest ih =>
    rw [raiseAll, List.mapM_cons] at answered
    obtain ⟨alert, middle, raised, answered⟩ := Task.bind_eq_ok.mp answered
    obtain ⟨others, last, raisedToo, same⟩ := Task.bind_eq_ok.mp answered
    cases same
    obtain ⟨id, _, _, raised⟩ := Task.bind_eq_ok.mp raised
    obtain ⟨now, _, _, raised⟩ := Task.bind_eq_ok.mp raised
    exact .cons ⟨id, now, (Task.ofExcept_mapError_eq_ok.mp raised).1⟩ (ih raisedToo)

/-- Stages the next of several alerts, and counts its events. -/
def stageNext (context : OperationContext) (source : String) :
    ChangeSet × Nat → Alert → Task σ (IngestError × ChangeSet) (ChangeSet × Nat) :=
  fun (changes, staged) alert => do
    let changes ← Task.ofExcept ((changes.saveAlert alert).mapError (.store ·, changes))
    let (changes, more) ←
      (changes.stageAlert alert context source).mapError (Prod.map .contract id)
    return (changes, staged + more)

/-- Alerts are staged one after the other, each with its events. -/
theorem foldlM_stageNext (visible : Text.isBlankText source = false) {alerts : List Alert}
    {changes after : ChangeSet} {staged total : Nat} {world left : World σ}
    (answered : alerts.foldlM (stageNext context source) (changes, staged) world =
      (.ok (after, total), left)) :
    world.Follows left ∧ left.store = world.store ∧
      changes.Stages after context.correlationId (alerts.map .alert) world.ids.draw
        world.ids.used left.ids.used ∧
      total = staged + ((alerts.map Saved.alert).flatMap Saved.events).length := by
  induction alerts generalizing changes staged world with
  | nil =>
    cases answered
    exact ⟨.refl _, rfl, .refl _ _ _ _ _, rfl⟩
  | cons alert rest ih =>
    rw [List.foldlM_cons] at answered
    obtain ⟨⟨between, counted⟩, middle, first, others⟩ := Task.bind_eq_ok.mp answered
    obtain ⟨followsToo, keptToo, stagesToo, totalEq⟩ := ih others
    obtain ⟨added, _, saved, staging⟩ := Task.bind_eq_ok.mp first
    obtain ⟨stored, rfl⟩ := Task.ofExcept_mapError_eq_ok.mp saved
    obtain ⟨_, _, ran, same⟩ := Task.bind_eq_ok.mp staging
    obtain ⟨_, _, ran', follows, kept, stages⟩ :=
      ChangeSet.stages_alert visible context stored world
    cases ran'.symm.trans (Task.mapError_eq_ok.mp ran)
    cases same
    refine ⟨follows.trans followsToo, keptToo.trans kept, ?_, ?_⟩
    · rw [follows.draw] at stagesToo
      exact stages.trans stagesToo follows.used followsToo.used
    · have told := Saved.length_events_of_saveAlert stored
      simp only [List.map_cons, List.flatMap_cons, List.length_append]
      omega

theorem stageNext_looks (staged : ChangeSet × Nat) (alert : Alert) :
    (stageNext context source staged alert : Task σ _ _).Looks :=
  (Task.Looks.ofExcept _).bind fun _ =>
    ((ChangeSet.stageAlert_looks _ _ _ _).mapError _).bind fun _ => .pure _

/-- Stages a reading with the alerts that were raised for it. -/
def stageWith (context : OperationContext) (source : String) (changes : ChangeSet)
    (reading : Reading) (alerts : List Alert) (readingId : EntityId) (sensorId : SensorId) :
    Task σ (IngestError × ChangeSet) (ChangeSet × IngestedReading) := do
  let changes ← Task.ofExcept ((changes.addReading reading).mapError (.store ·, changes))
  let (changes, staged) ←
    (changes.stageReading reading context source).mapError (Prod.map .contract id)
  let (changes, staged) ← alerts.foldlM (stageNext context source) (changes, staged)
  return (changes, ⟨readingId, sensorId, staged, alerts.length⟩)

theorem stageWith_looks (changes : ChangeSet) (reading : Reading) (alerts : List Alert)
    (readingId : EntityId) (sensorId : SensorId) :
    (stageWith context source changes reading alerts readingId sensorId : Task σ _ _).Looks :=
  (Task.Looks.ofExcept _).bind fun _ =>
    ((ChangeSet.stageReading_looks _ _ _ _).mapError _).bind fun _ =>
      (Task.Looks.foldlM stageNext_looks _ _).bind fun _ => .pure _

theorem stage_looks (rules : Option AlertRules) (changes : ChangeSet) (reading : Reading)
    (context : OperationContext) (source : String) :
    (stage rules changes reading context source : Task σ _ _).Looks := by
  unfold stage
  split
  · cases rules with
    | none => exact stageWith_looks changes reading [] _ _
    | some rules =>
      exact ((raiseAll_looks _).mapError _).bind fun alerts =>
        stageWith_looks changes reading alerts _ _
  · exact .throw _

/-! ## Rejections -/

/-- Whether a failure leaves a change set as it is, if it is a rejection. -/
def Untouched (changes : ChangeSet) (failure : IngestError × ChangeSet) : Prop :=
  failure.1.isRejection = true → failure.2 = changes

/-- Whether a failure is none of the caller's doing. -/
def Internal (failure : IngestError × ChangeSet) : Prop := failure.1.isRejection = false

theorem Internal.store (changes : ChangeSet) (error : StoreError) :
    Internal (.store error, changes) := rfl

theorem Internal.contract (failure : EnvelopeError × ChangeSet) :
    Internal (failure.map .contract id) := rfl

theorem stageNext_fails (staged : ChangeSet × Nat) (alert : Alert) :
    (stageNext context source staged alert : Task σ _ _).FailsWith Internal :=
  (Task.FailsWith.ofExcept (Internal.store _) _).bind fun _ =>
    (Task.FailsWith.mapError Internal.contract _).bind fun _ => .pure _

/-- Once all alerts are raised, nothing is rejected any more. -/
theorem stageWith_fails (changes : ChangeSet) (reading : Reading) (alerts : List Alert)
    (readingId : EntityId) (sensorId : SensorId) :
    (stageWith context source changes reading alerts readingId sensorId :
      Task σ _ _).FailsWith Internal :=
  (Task.FailsWith.ofExcept (Internal.store _) _).bind fun _ =>
    (Task.FailsWith.mapError Internal.contract _).bind fun _ =>
      (Task.FailsWith.foldlM stageNext_fails _ _).bind fun _ => .pure _

/-- A reading that is rejected leaves the change set as it was before it. -/
theorem stage_fails (rules : Option AlertRules) (changes : ChangeSet) (reading : Reading)
    (context : OperationContext) (source : String) :
    (stage rules changes reading context source : Task σ _ _).FailsWith (Untouched changes) := by
  have rest (alerts : List Alert) (readingId : EntityId) (sensorId : SensorId) :
      (stageWith context source changes reading alerts readingId sensorId :
        Task σ _ _).FailsWith (Untouched changes) :=
    (stageWith_fails changes reading alerts readingId sensorId).mono
      fun _ internal rejected => absurd (internal.symm.trans rejected) Bool.false_ne_true
  unfold stage
  split
  · cases rules with
    | none => exact rest [] _ _
    | some rules =>
      exact (Task.FailsWith.mapError (fun _ _ => rfl) _).bind fun alerts => rest alerts _ _
  · exact .throw fun _ => rfl

theorem stageOne_fails (rules : Option AlertRules) (active : List SensorId)
    (changes : ChangeSet) (input : NewReading) (context : OperationContext) :
    (stageOne rules active changes input context : Task σ _ _).FailsWith (Untouched changes) := by
  refine (Task.FailsWith.freshId _).bind fun id => Task.FailsWith.now.bind fun now => ?_
  split
  · exact .throw fun _ => rfl
  · split
    · exact (Task.FailsWith.throw fun _ => rfl).bind fun _ => stage_fails _ _ _ _ _
    · exact stage_fails _ _ _ _ _

/-! ## Readings that are staged -/

/-- The steps in which a recorded reading is staged. -/
theorem stage_eq (rules : Option AlertRules) (changes : ChangeSet) {reading : Reading}
    {record : ReadingRecord} (recorded : reading.state.toRecord? = some record)
    (context : OperationContext) (source : String) :
    (stage rules changes reading context source : Task σ _ _) = (do
      let alerts ← (raiseAll (askedFor rules reading)).mapError (·, changes)
      stageWith context source changes reading alerts record.id record.sensorId) := by
  have known := state_of_toRecord? recorded
  have identified : reading.state.id = some record.id := congrArg ReadingState.id known
  have placed : reading.state.sensorId = some record.sensorId :=
    congrArg ReadingState.sensorId known
  simp only [stage, identified, placed]
  cases rules <;> rfl

/-- A reading that is staged was staged with the alerts that were raised for it, and the events of
all of them, its own first. -/
theorem stage_parts (visible : Text.isBlankText source = false) {rules : Option AlertRules}
    {changes after : ChangeSet} {reading : Reading} {record : ReadingRecord}
    {ingested : IngestedReading} {world left : World σ}
    (recorded : reading.state.toRecord? = some record)
    (answered : stage rules changes reading context source world = (.ok (after, ingested), left)) :
    ∃ alerts raised, raiseAll (askedFor rules reading) world = (.ok alerts, raised) ∧
      raised.Follows left ∧ left.store = raised.store ∧
      changes.Stages after context.correlationId (.reading reading :: alerts.map .alert)
        raised.ids.draw raised.ids.used left.ids.used ∧
      ingested = ⟨record.id, record.sensorId,
        ((.reading reading :: alerts.map Saved.alert).flatMap Saved.events).length,
        alerts.length⟩ := by
  rw [stage_eq rules changes recorded] at answered
  obtain ⟨alerts, raised, raising, answered⟩ := Task.bind_eq_ok.mp answered
  replace raising := Task.mapError_eq_ok.mp raising
  obtain ⟨added, _, adding, answered⟩ := Task.bind_eq_ok.mp answered
  obtain ⟨⟨between, counted⟩, middle, staging, answered⟩ := Task.bind_eq_ok.mp answered
  obtain ⟨⟨_, total⟩, _, others, same⟩ := Task.bind_eq_ok.mp answered
  cases same
  obtain ⟨stored, rfl⟩ := Task.ofExcept_mapError_eq_ok.mp adding
  obtain ⟨_, _, ran, follows, kept, stages⟩ :=
    ChangeSet.stages_reading visible context stored raised
  cases ran.symm.trans (Task.mapError_eq_ok.mp staging)
  obtain ⟨followsToo, keptToo, stagesToo, totalEq⟩ := foldlM_stageNext visible others
  refine ⟨alerts, raised, raising, follows.trans followsToo, keptToo.trans kept, ?_, ?_⟩
  · rw [follows.draw] at stagesToo
    exact stages.trans stagesToo follows.used followsToo.used
  · rw [totalEq]
    simp [Saved.events]

/-- A recorded reading is staged with the alerts that rules ask for, and the events of all of them,
its own first. -/
theorem stage_eq_ok (visible : Text.isBlankText source = false) {rules : Option AlertRules}
    {changes after : ChangeSet} {reading : Reading} {record : ReadingRecord}
    {ingested : IngestedReading} {world left : World σ}
    (recorded : reading.state.toRecord? = some record)
    (answered : stage rules changes reading context source world = (.ok (after, ingested), left)) :
    ∃ alerts,
      List.Forall₂ (fun input alert => ∃ id now, Alert.raise id input now = .ok alert)
        (askedFor rules reading) alerts ∧
      world.Follows left ∧ left.store = world.store ∧
      changes.Stages after context.correlationId (.reading reading :: alerts.map .alert)
        world.ids.draw world.ids.used left.ids.used ∧
      ingested = ⟨record.id, record.sensorId,
        ((.reading reading :: alerts.map Saved.alert).flatMap Saved.events).length,
        alerts.length⟩ := by
  obtain ⟨alerts, raised, raising, follows, kept, stages, same⟩ :=
    stage_parts visible recorded answered
  obtain ⟨raisedFollows, raisedKept⟩ := (raiseAll_looks _).readsOnly.of_eq raising
  rw [raisedFollows.draw] at stages
  exact ⟨alerts, raiseAll_eq_ok raising, raisedFollows.trans follows, kept.trans raisedKept,
    stages.widen raisedFollows.used (Nat.le_refl _), same⟩

/-! ## Batches -/

theorem stageOne_looks (rules : Option AlertRules) (active : List SensorId)
    (changes : ChangeSet) (input : NewReading) (context : OperationContext) :
    (stageOne rules active changes input context : Task σ _ _).Looks := by
  refine (Task.Looks.freshId _).bind fun id => Task.Looks.now.bind fun now => ?_
  split
  · exact .throw _
  · split
    · exact (Task.Looks.throw _).bind fun _ => stage_looks _ _ _ _ _
    · exact stage_looks _ _ _ _ _

theorem stageAll_readsOnly (rules : Option AlertRules) (active : List SensorId)
    (context : OperationContext) (index : Nat) (changes : ChangeSet) (result : BatchResult)
    (inputs : List NewReading) :
    (stageAll rules active context index changes result inputs :
      Task σ IngestError _).ReadsOnly := by
  induction inputs generalizing index changes result with
  | nil => exact .pure _
  | cons input rest ih =>
    intro world
    have first := (stageOne_looks rules active changes input context).readsOnly world
    simp only [stageAll]
    split
    · next staged ingested middle ran =>
      rw [ran] at first
      obtain ⟨goesOn, keeps⟩ := ih (index + 1) staged
        { result with readingIds := result.readingIds ++ [ingested.readingId] } middle
      exact ⟨first.1.trans goesOn, keeps.trans first.2⟩
    · next error left middle ran =>
      rw [ran] at first
      split
      · obtain ⟨goesOn, keeps⟩ := ih (index + 1) left
          { result with failures := result.failures ++
            [⟨index, input.sensorId, error.reason, error.message⟩] }
          { middle with counters := middle.counters.add (.readingsRejected error.reason) 1 }
        exact ⟨first.1.trans ⟨goesOn.draw, goesOn.used⟩, keeps.trans first.2⟩
      · exact first

/-- What becomes of the readings of a batch, from a place on: each is accepted with its alerts, for
a sensor that is active, or refused and reported at its place. -/
inductive Sorted (rules : Option AlertRules) (active : List SensorId) :
    Nat → List NewReading → List (Reading × List Alert) → List BatchFailure → Prop
  | done (index : Nat) : Sorted rules active index [] [] []
  | accepted {index input rest reading alerts groups failures}
    (accepted : Accepted rules input reading alerts) (known : input.sensorId ∈ active)
    (others : Sorted rules active (index + 1) rest groups failures) :
    Sorted rules active index (input :: rest) ((reading, alerts) :: groups) failures
  | refused {index input rest groups failures} {error : IngestError}
    (rejected : error.isRejection = true)
    (others : Sorted rules active (index + 1) rest groups failures) :
    Sorted rules active index (input :: rest) groups
      (⟨index, input.sensorId, error.reason, error.message⟩ :: failures)

/-- All that is saved of accepted readings with their alerts, each reading before its own. -/
def savedOf (groups : List (Reading × List Alert)) : List Saved :=
  groups.flatMap fun group => .reading group.1 :: group.2.map .alert

theorem savedOf_cons (reading : Reading) (alerts : List Alert)
    (groups : List (Reading × List Alert)) :
    savedOf ((reading, alerts) :: groups) =
      (.reading reading :: alerts.map .alert) ++ savedOf groups := rfl

/-- The identifiers of the readings among what is saved. -/
def readingIds (saved : List Saved) : List EntityId :=
  (saved.filterMap Saved.record?).map ReadingRecord.id

/-- Of what is saved of a reading with its alerts, only the reading is one. -/
theorem records_group {reading : Reading} {record : ReadingRecord}
    (recorded : reading.state.toRecord? = some record) (alerts : List Alert) :
    (Saved.reading reading :: alerts.map .alert).filterMap Saved.record? = [record] := by
  have none : (alerts.map Saved.alert).filterMap Saved.record? = [] := by
    simp [List.filterMap_eq_nil_iff, Saved.record?]
  simp [Saved.record?, recorded, none]

theorem readingIds_group {reading : Reading} {record : ReadingRecord} {alerts : List Alert}
    (recorded : reading.state.toRecord? = some record) :
    readingIds (.reading reading :: alerts.map .alert) = [record.id] := by
  rw [readingIds, records_group recorded]
  rfl

/-- A reading that is staged was accepted, under the next identifier of the supply. -/
theorem stageOne_eq_ok {rules : Option AlertRules} {active : List SensorId}
    {changes after : ChangeSet} {input : NewReading} {ingested : IngestedReading}
    {world left : World σ}
    (answered : stageOne rules active changes input context world =
      (.ok (after, ingested), left)) :
    ∃ reading alerts, Accepted rules input reading alerts ∧ input.sensorId ∈ active ∧
      changes.Stages after context.correlationId (.reading reading :: alerts.map .alert)
        world.ids.draw world.ids.used left.ids.used ∧
      readingIds (.reading reading :: alerts.map .alert) = [ingested.readingId] ∧
      ingested.readingId = world.ids.peek 0 .entity ∧ world.ids.used < left.ids.used := by
  obtain ⟨id, drawn, named, answered⟩ := Task.bind_eq_ok.mp answered
  cases named
  obtain ⟨now, read, told, answered⟩ := Task.bind_eq_ok.mp answered
  cases told
  generalize created : Reading.create _ input _ = made at answered
  cases made with
  | error faults => cases answered
  | ok reading =>
    obtain ⟨recorded, pending⟩ := record_of_create created
    dsimp only at answered
    split at answered
    · obtain ⟨_, _, refused, _⟩ := Task.bind_eq_ok.mp answered
      cases refused
    · next known =>
      obtain ⟨alerts, raised, follows, kept, stages, rfl⟩ :=
        stage_eq_ok (by decide) recorded answered
      have used := follows.used
      dsimp only at used
      exact ⟨reading, alerts, ⟨⟨_, _, created⟩, raised⟩, by simpa using known,
        stages.widen (by simp) (Nat.le_refl _), readingIds_group recorded, rfl, used⟩

theorem readingIds_append (saved more : List Saved) :
    readingIds (saved ++ more) = readingIds saved ++ readingIds more := by
  simp [readingIds]

/-- A batch stages what its accepted readings stage, in their order, and reports the rest. -/
theorem stageAll_eq_ok {rules : Option AlertRules} {active : List SensorId} {index : Nat}
    {changes after : ChangeSet} {result final : BatchResult} {inputs : List NewReading}
    {world left : World σ}
    (answered : stageAll rules active context index changes result inputs world =
      (.ok (after, final), left)) :
    ∃ groups failures, Sorted rules active index inputs groups failures ∧
      final.readingIds = result.readingIds ++ readingIds (savedOf groups) ∧
      final.failures = result.failures ++ failures ∧
      changes.Stages after context.correlationId (savedOf groups) world.ids.draw
        world.ids.used left.ids.used ∧
      DrawnInOrder world.ids.draw world.ids.used left.ids.used
        ((readingIds (savedOf groups)).map Id.value) := by
  induction inputs generalizing index changes result world with
  | nil =>
    cases answered
    exact ⟨[], [], .done index, (List.append_nil _).symm, (List.append_nil _).symm,
      .refl _ _ _ _ _, .nil _ _ _⟩
  | cons input rest ih =>
    have first := (stageOne_looks rules active changes input context).readsOnly world
    simp only [stageAll] at answered
    split at answered
    · next staged ingested middle ran =>
      rw [ran] at first
      obtain ⟨reading, alerts, accepted, known, stages, identified, named, drawnFirst⟩ :=
        stageOne_eq_ok ran
      obtain ⟨groups, failures, sorted, ids, failed, stagesToo, drawn⟩ := ih answered
      have last := (stageAll_readsOnly _ _ _ _ _ _ _).of_eq answered
      rw [first.1.draw] at stagesToo drawn
      refine ⟨(reading, alerts) :: groups, failures, .accepted accepted known sorted, ?_, failed,
        stages.trans stagesToo first.1.used last.1.used, ?_⟩
      · rw [ids, savedOf_cons, readingIds_append, identified, List.append_assoc]
      · rw [savedOf_cons, readingIds_append, identified, named]
        have here : DrawnInOrder world.ids.draw world.ids.used middle.ids.used
            [world.ids.draw world.ids.used] := .singleton (Nat.le_refl _) drawnFirst
        exact here.append drawn first.1.used last.1.used
    · next error kept middle ran =>
      have untouched := stageOne_fails rules active changes input context world
      rw [ran] at first untouched
      split at answered
      · next rejected =>
        obtain rfl := untouched _ rfl rejected
        obtain ⟨groups, failures, sorted, ids, failed, stages, drawn⟩ := ih answered
        refine ⟨groups, _ :: failures, .refused rejected sorted, ids, ?_, ?_, ?_⟩
        · rw [failed, List.append_assoc]
          rfl
        · rw [← first.1.draw]
          exact stages.widen first.1.used (Nat.le_refl _)
        · rw [← first.1.draw]
          exact drawn.widen first.1.used (Nat.le_refl _)
      · cases answered

end Fieldwatch.Ingest
