import Fieldwatch.Ingest.Alerts
import Fieldwatch.Proofs.Ingest.Readings
import Fieldwatch.Proofs.Store.Commit

/-!
# Calls of the use cases

Every use case that writes ends with one commit. A call that fails leaves what the store holds as
it was; a call that answers leaves what it saved, and one entry for each event of it in the order
in which the events were recorded.
-/
namespace Fieldwatch.Ingest

open Tables (find?)

inductive Call
  | ingest (rules : Option AlertRules) (input : NewReading)
  | ingestBatch (rules : Option AlertRules) (inputs : List NewReading)
  | raise (input : NewAlert)
  | acknowledge (id : EntityId)
  | resolve (id : EntityId) (notes : Option String)

/-- What a call answers. -/
inductive Answer
  | reading (ingested : IngestedReading)
  | batch (result : BatchResult)
  | alert (alert : Alert)

namespace Call

def run (call : Call) (context : OperationContext) : Task Tables IngestError Answer :=
  match call with
  | ingest rules input => do return .reading (← Ingest.ingest rules input context)
  | ingestBatch rules inputs => do return .batch (← Ingest.ingestBatch rules inputs context)
  | raise input => do return .alert (← Alerts.raise input context)
  | acknowledge id => do return .alert (← Alerts.acknowledge id context)
  | resolve id notes => do return .alert (← Alerts.resolve id notes context)

/-- What a call saves of a store's, and what it answers. -/
inductive Saves (actor : Option OwnerId) (tables : Tables) : Call → Answer → List Saved → Prop
  | ingest {rules input reading alerts record}
    (accepted : Accepted rules input reading alerts)
    (recorded : reading.state.toRecord? = some record)
    (active : (find? tables.sensors input.sensorId).any SensorSnapshot.isActive = true) :
    Saves actor tables (.ingest rules input)
      (.reading ⟨record.id, record.sensorId,
        ((.reading reading :: alerts.map Saved.alert).flatMap Saved.events).length,
        alerts.length⟩)
      (.reading reading :: alerts.map .alert)
  | ingestBatch {rules inputs groups failures}
    (sorted : Sorted rules
      ((Tables.pick tables.sensors (sensorsOf inputs) .activeOnly).map SensorSnapshot.id)
      0 inputs groups failures) :
    Saves actor tables (.ingestBatch rules inputs)
      (.batch ⟨readingIds (savedOf groups), failures⟩) (savedOf groups)
  | raise {input alert id now} (raised : Alert.raise id input now = .ok alert)
    (known : (find? tables.sensors input.sensorId).isSome = true) :
    Saves actor tables (.raise input) (.alert alert.committed) [.alert alert]
  | acknowledge {id loaded alert now unnamed} (found : tables.alert? id = some loaded)
    (seen : loaded.acknowledge actor now unnamed = .ok alert) :
    Saves actor tables (.acknowledge id) (.alert alert.committed) [.alert alert]
  | resolve {id notes loaded alert now unnamed} (found : tables.alert? id = some loaded)
    (closed : loaded.resolve actor notes now unnamed = .ok alert) :
    Saves actor tables (.resolve id notes) (.alert alert.committed) [.alert alert]

end Call

/-! ## Reads -/

theorem sensorExists_readsOnly (id : SensorId) (liveness : Liveness) :
    (Task.access (Backend.sensorExists id liveness) : Task Tables StoreError Bool).ReadsOnly :=
  .access fun _ => rfl

theorem getSensors_readsOnly (ids : List SensorId) (liveness : Liveness) :
    (Task.access (Backend.getSensors ids liveness) :
      Task Tables StoreError (List SensorSnapshot)).ReadsOnly :=
  .access fun _ => rfl

theorem getAlert_readsOnly (id : EntityId) :
    (Task.access (Backend.getAlert id) : Task Tables StoreError (Option Alert)).ReadsOnly :=
  .access fun _ => rfl

/-- Whether a sensor exists is whether it has a row of the liveness asked for. -/
theorem sensorExists_apply (id : SensorId) (liveness : Liveness) (world : World Tables) :
    (Task.access (Backend.sensorExists id liveness)).mapError IngestError.store world =
      (.ok ((find? world.store.sensors id).any fun sensor => liveness.admits sensor.isActive),
        world) := by
  change (Except.mapError _ (Except.ok
    ((find? world.store.sensors id).filter fun sensor => liveness.admits sensor.isActive).isSome),
    world) = _
  cases find? world.store.sensors id with
  | none => rfl
  | some sensor =>
    cases admitted : liveness.admits sensor.isActive <;> simp [admitted, Except.mapError]

theorem getSensors_apply (ids : List SensorId) (liveness : Liveness) (world : World Tables) :
    (Task.access (Backend.getSensors ids liveness)).mapError IngestError.store world =
      (.ok (Tables.pick world.store.sensors ids liveness), world) := rfl

theorem getAlert_apply (id : EntityId) (world : World Tables) :
    (Task.access (Backend.getAlert id)).mapError IngestError.store world =
      (.ok (world.store.alert? id), world) := rfl

/-! ## Failures -/

/-- A commit that is counted and answered is atomic. -/
theorem commit_then_atomic {α : Type} {next : CommitReceipt → Task Tables IngestError α}
    (changes : ChangeSet) (rest : ∀ receipt, (next receipt).ReadsOnly)
    (answers : ∀ receipt world error, ((next receipt) world).1 ≠ .error error) :
    Task.Atomic ((Task.commit changes).mapError .store >>= next) :=
  ((Task.Atomic.commit changes).mapError _).bind_of_answers rest answers

theorem ingest_atomic (rules : Option AlertRules) (input : NewReading)
    (context : OperationContext) : Task.Atomic (ingest rules input context : Task Tables _ _) := by
  have saving (reading : Reading) : Task.Atomic (do
      let staged ← (stage rules .empty reading context "IngestReading").mapError Prod.fst
      let _ ← (Task.commit staged.1).mapError .store
      Task.count .readingsAccepted 1
      return staged.2 : Task Tables IngestError IngestedReading) :=
    .bind_of_readsOnly ((stage_looks _ _ _ _ _).mapError _).readsOnly fun staged =>
      commit_then_atomic staged.1
        (fun _ => (Task.ReadsOnly.count _ _).bind fun _ => .pure _) (by rintro _ _ _ ⟨⟩)
  refine .bind_of_readsOnly (.freshId _) fun id => .bind_of_readsOnly .now fun now => ?_
  split
  · exact .of_readsOnly ((Task.ReadsOnly.count _ _).bind fun _ => .throw _)
  · next reading created =>
    refine .bind_of_readsOnly ((sensorExists_readsOnly _ _).mapError _) fun active => ?_
    split
    · exact .bind_of_readsOnly (.count _ _) fun _ =>
        .bind_of_readsOnly (.throw _) fun _ => saving reading
    · exact saving reading

theorem ingestBatch_atomic (rules : Option AlertRules) (inputs : List NewReading)
    (context : OperationContext) :
    Task.Atomic (ingestBatch rules inputs context : Task Tables _ _) := by
  refine .bind_of_readsOnly ((getSensors_readsOnly _ _).mapError _) fun sensors => ?_
  refine .bind_of_readsOnly (stageAll_readsOnly _ _ _ _ _ _ _) fun (changes, result) => ?_
  dsimp only
  split
  · exact commit_then_atomic changes
      (fun _ => (Task.ReadsOnly.count _ _).bind fun _ => .pure _) (by rintro _ _ _ ⟨⟩)
  · exact .of_readsOnly (.pure _)

theorem save_atomic (alert : Alert) (context : OperationContext) (source : String) :
    Task.Atomic (Alerts.save alert context source : Task Tables _ _) :=
  .bind_of_readsOnly (.ofExcept _) fun changes =>
    .bind_of_readsOnly ((changes.stageAlert_looks _ _ _).mapError _).readsOnly fun staged =>
      commit_then_atomic staged.1 (fun _ => .pure _) (by rintro _ _ _ ⟨⟩)

theorem raise_atomic (input : NewAlert) (context : OperationContext) :
    Task.Atomic (Alerts.raise input context : Task Tables _ _) := by
  refine .bind_of_readsOnly (.freshId _) fun id => .bind_of_readsOnly .now fun now => ?_
  refine .bind_of_readsOnly (.ofExcept _) fun alert => ?_
  refine .bind_of_readsOnly ((sensorExists_readsOnly _ _).mapError _) fun known => ?_
  split
  · exact .bind_of_readsOnly (.throw _) fun _ => save_atomic _ _ _
  · exact save_atomic _ _ _

theorem load_readsOnly (id : EntityId) :
    (Alerts.load id : Task Tables IngestError Alert).ReadsOnly := by
  refine ((getAlert_readsOnly id).mapError _).bind fun found => ?_
  split
  · exact .pure _
  · exact .throw _

theorem acknowledgeLoaded_atomic (alert : Alert) (context : OperationContext) :
    Task.Atomic (Alerts.acknowledgeLoaded alert context : Task Tables _ _) :=
  .bind_of_readsOnly (.freshId _) fun _ => .bind_of_readsOnly .now fun _ =>
    .bind_of_readsOnly (.ofExcept _) fun _ => save_atomic _ _ _

theorem resolveLoaded_atomic (alert : Alert) (notes : Option String)
    (context : OperationContext) :
    Task.Atomic (Alerts.resolveLoaded alert notes context : Task Tables _ _) :=
  .bind_of_readsOnly (.freshId _) fun _ => .bind_of_readsOnly .now fun _ =>
    .bind_of_readsOnly (.ofExcept _) fun _ => save_atomic _ _ _

theorem Call.run_atomic (call : Call) (context : OperationContext) :
    Task.Atomic (call.run context) := by
  have answering {α : Type} {task : Task Tables IngestError α} (answer : α → Answer)
      (atomic : Task.Atomic task) :
      Task.Atomic (do return answer (← task) : Task Tables IngestError Answer) :=
    atomic.bind_of_answers (fun _ => .pure _) (by rintro _ _ _ ⟨⟩)
  cases call with
  | ingest rules input => exact answering .reading (ingest_atomic rules input context)
  | ingestBatch rules inputs => exact answering .batch (ingestBatch_atomic rules inputs context)
  | raise input => exact answering .alert (raise_atomic input context)
  | acknowledge id =>
    exact answering .alert (.bind_of_readsOnly (load_readsOnly id) fun alert =>
      acknowledgeLoaded_atomic alert context)
  | resolve id notes =>
    exact answering .alert (.bind_of_readsOnly (load_readsOnly id) fun alert =>
      resolveLoaded_atomic alert notes context)

/-! ## Answers -/

/-- What a call did that answered: it staged what it saves, and committed that if it was anything
at all. -/
structure Commits (context : OperationContext) (saved : List Saved) (world left : World Tables) :
    Prop where
  follows : world.Follows left
  committed : ∃ changes,
    ChangeSet.empty.Stages changes context.correlationId saved world.ids.draw
      world.ids.used left.ids.used ∧
    (changes.isEmpty = true ∧ left.store = world.store ∨
      ∃ receipt, world.store.commit changes = (.ok receipt, left.store))
  drawn : DrawnInOrder world.ids.draw world.ids.used left.ids.used
    ((readingIds saved).map Id.value)

variable {context : OperationContext} {world left : World Tables}

theorem ingest_eq_ok {rules : Option AlertRules} {input : NewReading} {ingested : IngestedReading}
    (answered : ingest rules input context world = (.ok ingested, left)) :
    ∃ saved, Call.Saves context.actor world.store (.ingest rules input) (.reading ingested) saved ∧
      Commits context saved world left := by
  have follows := (ingest_atomic rules input context world).1
  rw [answered] at follows
  obtain ⟨id, _, named, answered⟩ := Task.bind_eq_ok.mp answered
  cases named
  obtain ⟨now, _, told, answered⟩ := Task.bind_eq_ok.mp answered
  cases told
  generalize created : Reading.create _ input _ = made at answered
  cases made with
  | error faults => cases answered
  | ok reading =>
    obtain ⟨recorded, pending⟩ := record_of_create created
    obtain ⟨active, _, looked, answered⟩ := Task.bind_eq_ok.mp answered
    rw [sensorExists_apply] at looked
    cases looked
    split at answered
    · obtain ⟨_, _, rejected, answered⟩ := Task.bind_eq_ok.mp answered
      obtain ⟨_, _, refused, _⟩ := Task.bind_eq_ok.mp answered
      cases refused
    · next known =>
      obtain ⟨⟨changes, _⟩, staged, staging, answered⟩ := Task.bind_eq_ok.mp answered
      obtain ⟨receipt, stored, committing, answered⟩ := Task.bind_eq_ok.mp answered
      cases answered
      obtain ⟨alerts, raised, stagedFollows, kept, stages, rfl⟩ :=
        stage_eq_ok (by decide) recorded (Task.mapError_eq_ok.mp staging)
      obtain ⟨committed, drew⟩ := Task.commit_eq_ok (Task.mapError_eq_ok.mp committing)
      rw [kept] at committed
      have active : (find? world.store.sensors input.sensorId).any
          (fun sensor => Liveness.activeOnly.admits sensor.isActive) = true := by
        simpa using known
      have reached := Nat.le_of_eq (congrArg IdSource.used drew).symm
      refine ⟨_, .ingest ⟨⟨_, _, created⟩, raised⟩ recorded active, follows,
        ⟨changes, stages.widen (by simp) reached, .inr ⟨receipt, committed⟩⟩, ?_⟩
      rw [readingIds_group recorded]
      exact .singleton (Nat.le_refl _) (Nat.lt_of_lt_of_le stagedFollows.used reached)

theorem ingestBatch_eq_ok {rules : Option AlertRules} {inputs : List NewReading}
    {result : BatchResult}
    (answered : ingestBatch rules inputs context world = (.ok result, left)) :
    ∃ saved,
      Call.Saves context.actor world.store (.ingestBatch rules inputs) (.batch result) saved ∧
      Commits context saved world left := by
  have follows := (ingestBatch_atomic rules inputs context world).1
  rw [answered] at follows
  obtain ⟨sensors, _, looked, answered⟩ := Task.bind_eq_ok.mp answered
  rw [getSensors_apply] at looked
  cases looked
  obtain ⟨⟨changes, final⟩, staged, staging, answered⟩ := Task.bind_eq_ok.mp answered
  obtain ⟨stagedFollows, kept⟩ := (stageAll_readsOnly _ _ _ _ _ _ _).of_eq staging
  obtain ⟨groups, failures, sorted, ids, failed, stages, drawn⟩ := stageAll_eq_ok staging
  obtain ⟨readingIds, failures⟩ := final
  simp only [List.nil_append] at ids failed
  subst ids failed
  dsimp only at answered
  split at answered
  · obtain ⟨receipt, stored, committing, answered⟩ := Task.bind_eq_ok.mp answered
    cases answered
    obtain ⟨committed, drew⟩ := Task.commit_eq_ok (Task.mapError_eq_ok.mp committing)
    rw [kept] at committed
    have reached := Nat.le_of_eq (congrArg IdSource.used drew).symm
    exact ⟨_, .ingestBatch sorted, follows,
      ⟨changes, stages.widen (Nat.le_refl _) reached, .inr ⟨receipt, committed⟩⟩,
      drawn.widen (Nat.le_refl _) reached⟩
  · next empty =>
    cases answered
    exact ⟨_, .ingestBatch sorted, follows, ⟨changes, stages, .inl ⟨by simpa using empty, kept⟩⟩,
      drawn⟩

/-- An alert that is saved is committed with its events. -/
theorem save_eq_ok {source : String} (visible : Text.isBlankText source = false)
    {alert saved : Alert} (answered : Alerts.save alert context source world = (.ok saved, left)) :
    saved = alert.committed ∧ Commits context [.alert alert] world left := by
  have follows := (save_atomic alert context source world).1
  rw [answered] at follows
  obtain ⟨added, _, adding, answered⟩ := Task.bind_eq_ok.mp answered
  obtain ⟨stored, rfl⟩ := Task.ofExcept_mapError_eq_ok.mp adding
  obtain ⟨⟨changes, _⟩, staged, staging, answered⟩ := Task.bind_eq_ok.mp answered
  obtain ⟨receipt, after, committing, answered⟩ := Task.bind_eq_ok.mp answered
  cases answered
  obtain ⟨_, _, ran, -, kept, stages⟩ := ChangeSet.stages_alert visible context stored world
  cases ran.symm.trans (Task.mapError_eq_ok.mp staging)
  obtain ⟨committed, drew⟩ := Task.commit_eq_ok (Task.mapError_eq_ok.mp committing)
  rw [kept] at committed
  have reached := Nat.le_of_eq (congrArg IdSource.used drew).symm
  exact ⟨rfl, follows, ⟨changes, stages.widen (Nat.le_refl _) reached, .inr ⟨receipt, committed⟩⟩,
    .nil _ _ _⟩

/-- What was committed after drawing identifiers was committed all the same. -/
theorem Commits.of_follows {saved : List Saved} {middle : World Tables}
    (commits : Commits context saved middle left) (follows : world.Follows middle)
    (kept : middle.store = world.store) : Commits context saved world left where
  follows := follows.trans commits.follows
  committed := by
    obtain ⟨changes, stages, committed⟩ := commits.committed
    rw [follows.draw] at stages
    rw [kept] at committed
    exact ⟨changes, stages.widen follows.used (Nat.le_refl _), committed⟩
  drawn := by
    have drawn := commits.drawn
    rw [follows.draw] at drawn
    exact drawn.widen follows.used (Nat.le_refl _)

theorem raise_eq_ok {input : NewAlert} {alert : Alert}
    (answered : Alerts.raise input context world = (.ok alert, left)) :
    ∃ new now, Alert.raise (world.ids.peek 0 .entity) input now = .ok new ∧
      alert = new.committed ∧ (find? world.store.sensors input.sensorId).isSome = true ∧
      world.ids.used < left.ids.used ∧ Commits context [.alert new] world left := by
  obtain ⟨id, _, named, answered⟩ := Task.bind_eq_ok.mp answered
  cases named
  obtain ⟨now, _, told, answered⟩ := Task.bind_eq_ok.mp answered
  cases told
  obtain ⟨new, _, raising, answered⟩ := Task.bind_eq_ok.mp answered
  obtain ⟨raised, rfl⟩ := Task.ofExcept_mapError_eq_ok.mp raising
  obtain ⟨known, _, looked, answered⟩ := Task.bind_eq_ok.mp answered
  rw [sensorExists_apply] at looked
  cases looked
  split at answered
  · obtain ⟨_, _, refused, _⟩ := Task.bind_eq_ok.mp answered
    cases refused
  · next known =>
    obtain ⟨rfl, commits⟩ := save_eq_ok (by decide) answered
    have stored : (find? world.store.sensors input.sensorId).isSome = true := by
      cases found : find? world.store.sensors input.sensorId with
      | none => simp [found] at known
      | some sensor => rfl
    exact ⟨new, _, raised, rfl, stored, commits.follows.used,
      commits.of_follows ⟨rfl, Nat.le_succ _⟩ rfl⟩

theorem load_eq_ok {id : EntityId} {alert : Alert}
    (answered : Alerts.load id world = (.ok alert, left)) :
    world.store.alert? id = some alert ∧ world = left := by
  obtain ⟨found, _, looked, answered⟩ := Task.bind_eq_ok.mp answered
  rw [getAlert_apply] at looked
  cases looked
  generalize found : world.store.alert? id = stored at answered
  cases stored with
  | none => cases answered
  | some alert =>
    cases answered
    exact ⟨rfl, rfl⟩

theorem acknowledgeLoaded_eq_ok {loaded alert : Alert}
    (answered : Alerts.acknowledgeLoaded loaded context world = (.ok alert, left)) :
    ∃ seen now unnamed, loaded.acknowledge context.actor now unnamed = .ok seen ∧
      alert = seen.committed ∧ Commits context [.alert seen] world left := by
  obtain ⟨unnamed, _, named, answered⟩ := Task.bind_eq_ok.mp answered
  cases named
  obtain ⟨now, _, told, answered⟩ := Task.bind_eq_ok.mp answered
  cases told
  obtain ⟨seen, _, seeing, answered⟩ := Task.bind_eq_ok.mp answered
  obtain ⟨acknowledged, rfl⟩ := Task.ofExcept_mapError_eq_ok.mp seeing
  obtain ⟨rfl, commits⟩ := save_eq_ok (by decide) answered
  exact ⟨seen, _, _, acknowledged, rfl, commits.of_follows ⟨rfl, by simp⟩ rfl⟩

theorem resolveLoaded_eq_ok {loaded alert : Alert} {notes : Option String}
    (answered : Alerts.resolveLoaded loaded notes context world = (.ok alert, left)) :
    ∃ closed now unnamed, loaded.resolve context.actor notes now unnamed = .ok closed ∧
      alert = closed.committed ∧ Commits context [.alert closed] world left := by
  obtain ⟨unnamed, _, named, answered⟩ := Task.bind_eq_ok.mp answered
  cases named
  obtain ⟨now, _, told, answered⟩ := Task.bind_eq_ok.mp answered
  cases told
  obtain ⟨closed, _, closing, answered⟩ := Task.bind_eq_ok.mp answered
  obtain ⟨resolved, rfl⟩ := Task.ofExcept_mapError_eq_ok.mp closing
  obtain ⟨rfl, commits⟩ := save_eq_ok (by decide) answered
  exact ⟨closed, _, _, resolved, rfl, commits.of_follows ⟨rfl, by simp⟩ rfl⟩

/-- A call that answers has saved what it is to save. -/
theorem Call.run_eq_ok {call : Call} {answer : Answer}
    (answered : call.run context world = (.ok answer, left)) :
    ∃ saved, call.Saves context.actor world.store answer saved ∧
      Commits context saved world left := by
  cases call with
  | ingest rules input =>
    obtain ⟨ingested, _, ran, same⟩ := Task.bind_eq_ok.mp answered
    cases same
    exact ingest_eq_ok ran
  | ingestBatch rules inputs =>
    obtain ⟨result, _, ran, same⟩ := Task.bind_eq_ok.mp answered
    cases same
    exact ingestBatch_eq_ok ran
  | raise input =>
    obtain ⟨alert, _, ran, same⟩ := Task.bind_eq_ok.mp answered
    cases same
    obtain ⟨new, now, raised, rfl, known, -, commits⟩ := raise_eq_ok ran
    exact ⟨_, .raise raised known, commits⟩
  | acknowledge id =>
    obtain ⟨alert, _, ran, same⟩ := Task.bind_eq_ok.mp answered
    cases same
    obtain ⟨loaded, _, loading, ran⟩ := Task.bind_eq_ok.mp ran
    obtain ⟨found, rfl⟩ := load_eq_ok loading
    obtain ⟨seen, now, unnamed, acknowledged, rfl, commits⟩ := acknowledgeLoaded_eq_ok ran
    exact ⟨_, .acknowledge found acknowledged, commits⟩
  | resolve id notes =>
    obtain ⟨alert, _, ran, same⟩ := Task.bind_eq_ok.mp answered
    cases same
    obtain ⟨loaded, _, loading, ran⟩ := Task.bind_eq_ok.mp ran
    obtain ⟨found, rfl⟩ := load_eq_ok loading
    obtain ⟨closed, now, unnamed, resolved, rfl, commits⟩ := resolveLoaded_eq_ok ran
    exact ⟨_, .resolve found resolved, commits⟩

end Fieldwatch.Ingest
