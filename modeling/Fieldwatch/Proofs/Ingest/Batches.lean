import Fieldwatch.Proofs.Ingest.Exact
import Fieldwatch.Proofs.Ingest.Turns
import Fieldwatch.Proofs.Store.Writes

/-!
# Batches and single readings

A batch refuses the readings that would be refused alone, and for the same reasons. Each of the
others adds to the store what it would add alone with the identifiers that are next when its turn
comes, except that its events name the batch as their source.
-/
namespace Fieldwatch.Ingest

variable {rules : Option AlertRules} {context : OperationContext}

/-! ## Turn after turn -/

/-- The turn of a reading that a batch does not refuse: the world that it meets, what it stages, and
the answer for it. -/
structure Turn where
  world : World Tables
  input : NewReading
  part : ChangeSet
  ingested : IngestedReading

/-- Whether a reading stages in its turn what it would commit alone. -/
structure Turn.Stages (rules : Option AlertRules) (context : OperationContext)
    (first : World Tables) (high : Nat) (turn : Turn) : Prop where
  looked : OnlyLooked first turn.world
  record : ∃ record, turn.part.readings = [record] ∧ record.id = turn.ingested.readingId ∧
    record.sensorId = turn.input.sensorId
  commits : ∃ later, OnlyLooked turn.world later ∧ later.ids.used ≤ high ∧
    turn.part.Drawn turn.world.ids.draw turn.world.ids.used later.ids.used ∧
    ingest rules turn.input context turn.world = concluding turn.part 1 turn.ingested later

theorem Turn.Stages.mono {turn : Turn} {first earlier : World Tables} {high high' : Nat}
    (stages : turn.Stages rules context first high) (looked : OnlyLooked earlier first)
    (on : high ≤ high') : turn.Stages rules context earlier high' where
  looked := looked.trans stages.looked
  record := stages.record
  commits := by
    obtain ⟨later, lookedToo, below, committed⟩ := stages.commits
    exact ⟨later, lookedToo, Nat.le_trans below on, committed⟩

/-- All that is staged in turns, as each stages it alone. -/
def partsOf (turns : List Turn) : ChangeSet := .ofParts (turns.map Turn.part)

/-- What a batch commits of what is staged in turns. -/
def batchOf (turns : List Turn) : ChangeSet :=
  ChangeSet.empty.joined "IngestReadingBatch" (partsOf turns)

/-- How a batch reports a refused reading. -/
def failureAt (index : Nat) (input : NewReading) (error : IngestError) : BatchFailure :=
  ⟨index, input.sensorId, error.reason, error.message⟩

/-- How a batch reports its refused readings, from a place on. -/
def failuresFrom (refusal : NewReading → Option IngestError) (index : Nat)
    (inputs : List NewReading) : List BatchFailure :=
  (inputs.zipIdx index).filterMap fun (input, place) =>
    (refusal input).map (failureAt place input)

section Failures

variable (refusal : NewReading → Option IngestError) (index : Nat)

theorem failuresFrom_cons (input : NewReading) (rest : List NewReading) :
    failuresFrom refusal index (input :: rest) =
      ((refusal input).map (failureAt index input)).toList ++
        failuresFrom refusal (index + 1) rest := by
  cases judged : refusal input <;> simp [failuresFrom, judged]

theorem le_index_of_mem {inputs : List NewReading} {failure : BatchFailure}
    (member : failure ∈ failuresFrom refusal index inputs) : index ≤ failure.index := by
  obtain ⟨⟨input, place⟩, among, reported⟩ := List.mem_filterMap.mp member
  obtain ⟨error, -, rfl⟩ := Option.map_eq_some_iff.mp reported
  exact (List.mem_zipIdx among).1

/-- Refused readings are reported in the order of their places. -/
theorem pairwise_failuresFrom (inputs : List NewReading) :
    ((failuresFrom refusal index inputs).map BatchFailure.index).Pairwise (· < ·) := by
  induction inputs generalizing index with
  | nil => exact .nil
  | cons input rest ih =>
    rw [failuresFrom_cons]
    cases refusal input with
    | none => exact ih (index + 1)
    | some error =>
      refine List.pairwise_cons.mpr ⟨fun place later => ?_, ih (index + 1)⟩
      obtain ⟨failure, member, rfl⟩ := List.mem_map.mp later
      exact le_index_of_mem refusal (index + 1) member

/-- A reading is either refused and reported, or not refused. -/
theorem length_failuresFrom (inputs : List NewReading) :
    (inputs.filter fun input => (refusal input).isNone).length +
      (failuresFrom refusal index inputs).length = inputs.length := by
  induction inputs generalizing index with
  | nil => rfl
  | cons input rest ih =>
    have others := ih (index + 1)
    rw [failuresFrom_cons]
    cases judged : refusal input with
    | none =>
      rw [List.filter_cons_of_pos (by simp [judged])]
      simp only [Option.map_none, Option.toList_none, List.nil_append, List.length_cons]
      omega
    | some error =>
      rw [List.filter_cons_of_neg (by simp [judged])]
      simp only [Option.map_some, Option.toList_some, List.singleton_append, List.length_cons]
      omega

end Failures

/-- Whether the readings that are not refused had their turns between two worlds. -/
structure Turned (rules : Option AlertRules) (context : OperationContext) (moment : Instant)
    (world later : World Tables) (inputs : List NewReading) (turns : List Turn) : Prop where
  looked : OnlyLooked world later
  inputs : turns.map Turn.input =
    inputs.filter fun input => (refusal? rules world.store moment input).isNone
  drawn : (partsOf turns).Drawn world.ids.draw world.ids.used later.ids.used
  stages : ∀ turn ∈ turns, turn.Stages rules context world later.ids.used

section Turned

variable {moment : Instant} {world middle later : World Tables} {input : NewReading}
  {inputs : List NewReading} {turns : List Turn}

theorem Turned.refused {error : IngestError}
    (judged : refusal? rules world.store moment input = some error)
    (looked : OnlyLooked world middle)
    (rest : Turned rules context moment middle later inputs turns) :
    Turned rules context moment world later (input :: inputs) turns where
  looked := looked.trans rest.looked
  inputs := by
    rw [rest.inputs, looked.store_eq, List.filter_cons_of_neg (by simp [judged])]
  drawn := by
    have drawn := rest.drawn
    rw [looked.follows.draw] at drawn
    exact drawn.widen looked.follows.used (Nat.le_refl _)
  stages turn member := (rest.stages turn member).mono looked (Nat.le_refl _)

theorem Turned.accepted (turn : Turn)
    (judged : refusal? rules world.store moment turn.input = none)
    (looked : OnlyLooked world middle)
    (drawn : turn.part.Drawn world.ids.draw world.ids.used middle.ids.used)
    (stages : turn.Stages rules context world middle.ids.used)
    (rest : Turned rules context moment middle later inputs turns) :
    Turned rules context moment world later (turn.input :: inputs) (turn :: turns) where
  looked := looked.trans rest.looked
  inputs := by
    rw [List.map_cons, rest.inputs, looked.store_eq, List.filter_cons_of_pos (by simp [judged])]
  drawn := by
    have others := rest.drawn
    rw [looked.follows.draw] at others
    exact drawn.cons others looked.follows.used rest.looked.follows.used
  stages other member := by
    rcases List.mem_cons.mp member with rfl | later
    · exact stages.mono (.refl world) rest.looked.follows.used
    · exact (rest.stages other later).mono looked (Nat.le_refl _)

/-- A refused reading leaves what was staged as it is; the batch reports it and goes on. -/
theorem stageAll_of_refused {error : IngestError} (tells : world.now.Tells moment)
    (judged : refusal? rules world.store moment input = some error)
    (context : OperationContext) :
    ∃ middle, OnlyLooked world middle ∧ ∀ active : List SensorId,
      (input.sensorId ∈ active ↔ isActive world.store input.sensorId = true) →
      ∀ index changes (soFar : BatchResult) rest,
        stageAll rules active context index changes soFar (input :: rest) world =
          stageAll rules active context (index + 1) changes
            { soFar with failures := soFar.failures ++ [failureAt index input error] } rest
            middle := by
  have time : world.now.time = moment := tells _
  obtain ⟨left, -, failed⟩ := turn_of_refused (time ▸ judged) context
  let middle : World Tables :=
    { left with counters := left.counters.add (.readingsRejected error.reason) 1 }
  refine ⟨middle, ?_, fun active agrees index changes soFar rest => ?_⟩
  · -- Which sensors are active makes no difference to what a refused reading leaves.
    have looked : OnlyLooked world left := OnlyLooked.of_looks (stageOne_looks _ _ _ _ _)
      (failed (if isActive world.store input.sensorId then [input.sensorId] else [])
        (by split <;> simp_all) .empty)
    exact ⟨⟨looked.follows.draw, looked.follows.used⟩, looked.store_eq, looked.tell_eq⟩
  · simp only [stageAll, failed active agrees changes, isRejection_of_refusal? judged, if_true]
    rfl

/-- A reading that is not refused has its turn: what it stages alone is staged beside what was
staged before it, and the batch goes on. -/
theorem stageAll_of_accepted (tells : world.now.Tells moment)
    (judged : refusal? rules world.store moment input = none) (context : OperationContext) :
    ∃ turn : Turn, ∃ middle, turn.input = input ∧ OnlyLooked world middle ∧
      turn.part.Drawn world.ids.draw world.ids.used middle.ids.used ∧
      turn.Stages rules context world middle.ids.used ∧
      ∀ active : List SensorId,
        (input.sensorId ∈ active ↔ isActive world.store input.sensorId = true) →
        ∀ index changes (soFar : BatchResult) rest,
          stageAll rules active context index changes soFar (input :: rest) world =
            stageAll rules active context (index + 1)
              (changes.joined "IngestReadingBatch" turn.part)
              { soFar with readingIds := soFar.readingIds ++ [turn.ingested.readingId] } rest
              middle := by
  have time : world.now.time = moment := tells _
  obtain ⟨-, active, -⟩ := refusal?_eq_none_iff.mp judged
  obtain ⟨part, ingested, middle, drawn, readings, identified, -, staged, committed⟩ :=
    turn_of_accepted (time ▸ judged) context
  have looked : OnlyLooked world middle := OnlyLooked.of_looks (stageOne_looks _ _ _ _ _)
    (staged [input.sensorId] (List.mem_singleton.mpr rfl) .empty)
  refine ⟨⟨world, input, part, ingested⟩, middle, rfl, looked, drawn,
    ⟨.refl world, ⟨_, readings, identified.symm, rfl⟩, middle, looked, Nat.le_refl _, drawn,
      committed⟩, ?_⟩
  intro known agrees index changes soFar rest
  simp only [stageAll, staged known (agrees.mpr active) changes]

/-- A batch goes through its readings in order: it reports those that are refused, and stages the
others one after the other as each would be staged alone in its turn. -/
theorem stageAll_turns (tells : world.now.Tells moment) {active : List SensorId}
    (agrees : ∀ input ∈ inputs,
      (input.sensorId ∈ active ↔ isActive world.store input.sensorId = true))
    (index : Nat) (changes : ChangeSet) (soFar : BatchResult) :
    ∃ turns later, Turned rules context moment world later inputs turns ∧
      stageAll rules active context index changes soFar inputs world =
        (.ok (changes.joined "IngestReadingBatch" (partsOf turns),
          ⟨soFar.readingIds ++ turns.map fun turn => turn.ingested.readingId,
            soFar.failures ++ failuresFrom (refusal? rules world.store moment) index inputs⟩),
          later) := by
  induction inputs generalizing world index changes soFar with
  | nil =>
    refine ⟨[], world, ⟨.refl world, rfl, .nil _ _ _, by rintro _ ⟨⟩⟩, ?_⟩
    have same : changes.joined "IngestReadingBatch" (partsOf []) = changes := ChangeSet.joined_nil
    rw [same, List.map_nil, List.append_nil, failuresFrom, List.zipIdx_nil, List.filterMap_nil,
      List.append_nil]
    rfl
  | cons input rest ih =>
    have here := agrees input List.mem_cons_self
    -- A turn only looks at the store, so the rest is judged by the same store at the same time.
    have onward {middle : World Tables} (looked : OnlyLooked world middle) :=
      ih (fun count => (congrFun looked.tell_eq count).trans (tells count))
        (fun other member => looked.store_eq ▸ agrees other (List.mem_cons_of_mem _ member))
        (index + 1)
    cases judged : refusal? rules world.store moment input with
    | some error =>
      obtain ⟨middle, looked, refused⟩ := stageAll_of_refused tells judged context
      obtain ⟨turns, later, turned, goesOn⟩ := onward looked changes
        { soFar with failures := soFar.failures ++ [failureAt index input error] }
      refine ⟨turns, later, turned.refused judged looked, ?_⟩
      refine (refused active here index changes soFar rest).trans (goesOn.trans ?_)
      rw [looked.store_eq, failuresFrom_cons, judged, List.append_assoc]
      rfl
    | none =>
      obtain ⟨turn, middle, rfl, looked, drawn, stages, taken⟩ :=
        stageAll_of_accepted tells judged context
      obtain ⟨turns, later, turned, goesOn⟩ := onward looked
        (changes.joined "IngestReadingBatch" turn.part)
        { soFar with readingIds := soFar.readingIds ++ [turn.ingested.readingId] }
      refine ⟨turn :: turns, later, turned.accepted turn judged looked drawn stages, ?_⟩
      refine (taken active here index changes soFar rest).trans (goesOn.trans ?_)
      have joined : (changes.joined "IngestReadingBatch" turn.part).joined "IngestReadingBatch"
          (partsOf turns) = changes.joined "IngestReadingBatch" (partsOf (turn :: turns)) :=
        ChangeSet.joined_cons (turns.map Turn.part)
      rw [looked.store_eq, failuresFrom_cons, judged, joined, List.append_assoc]
      rfl

end Turned

/-! ## Batches -/

theorem mem_insertId {id other : SensorId} {ids : List SensorId} :
    other ∈ insertId id ids ↔ other = id ∨ other ∈ ids := by
  induction ids with
  | nil => simp [insertId]
  | cons head rest ih =>
    rw [insertId]
    split
    · exact List.mem_cons
    · split
      · next same => simp [same]
      · rw [List.mem_cons, ih, List.mem_cons]
        exact or_left_comm

/-- The sensors of a batch are those that its readings name. -/
theorem mem_sensorsOf {id : SensorId} {inputs : List NewReading} :
    id ∈ sensorsOf inputs ↔ ∃ input ∈ inputs, input.sensorId = id := by
  suffices grows : ∀ ids : List SensorId,
      id ∈ inputs.foldl (fun ids input => insertId input.sensorId ids) ids ↔
        id ∈ ids ∨ ∃ input ∈ inputs, input.sensorId = id by
    simpa [sensorsOf] using grows []
  induction inputs with
  | nil => simp
  | cons input rest ih =>
    intro ids
    rw [List.foldl_cons, ih, mem_insertId]
    simp [eq_comm, or_assoc, or_left_comm]

/-- The sensors that a batch finds active are those of its readings that are. -/
theorem mem_active {tables : Tables} {input : NewReading} {inputs : List NewReading}
    (member : input ∈ inputs) :
    input.sensorId ∈ (Tables.pick tables.sensors (sensorsOf inputs) .activeOnly).map
      SensorSnapshot.id ↔ isActive tables input.sensorId = true := by
  have named : input.sensorId ∈ sensorsOf inputs := mem_sensorsOf.mpr ⟨input, member, rfl⟩
  constructor
  · intro picked
    obtain ⟨row, among, same⟩ := List.mem_map.mp picked
    obtain ⟨chosen, active⟩ := List.mem_filter.mp among
    obtain ⟨id, -, found⟩ := List.mem_filterMap.mp chosen
    have owner : input.sensorId = id := same.symm.trans (Tables.id_of_find? found)
    rw [isActive, owner, found]
    exact active
  · intro active
    obtain ⟨row, found, live⟩ := (Option.any_eq_true _ _).mp active
    have chosen : row ∈ Tables.pick tables.sensors (sensorsOf inputs) .activeOnly :=
      List.mem_filter.mpr ⟨List.mem_filterMap.mpr ⟨_, named, found⟩, live⟩
    exact List.mem_map.mpr ⟨row, chosen, Tables.id_of_find? found⟩

/-- Parts that each have a reading are nothing to commit only if there are none. -/
theorem isEmpty_joined_ofParts {parts : List ChangeSet} (source : String)
    (some : ∀ part ∈ parts, part.readings ≠ []) :
    (ChangeSet.empty.joined source (.ofParts parts)).isEmpty = parts.isEmpty := by
  cases parts with
  | nil => rfl
  | cons part rest =>
    have here := List.length_pos_iff.mpr (some part List.mem_cons_self)
    have size : (ChangeSet.empty.joined source (.ofParts (part :: rest))).size ≠ 0 := by
      simp only [ChangeSet.size, ChangeSet.joined, ChangeSet.ofParts, ChangeSet.empty,
        List.flatMap_cons, List.length_append]
      omega
    simpa [ChangeSet.isEmpty] using size

/-- A batch that accepts nothing has nothing to commit. -/
theorem isEmpty_batchOf {moment : Instant} {world later : World Tables} {inputs : List NewReading}
    {turns : List Turn} (turned : Turned rules context moment world later inputs turns) :
    (batchOf turns).isEmpty = turns.isEmpty := by
  rw [batchOf, partsOf, isEmpty_joined_ofParts, List.isEmpty_map]
  intro part member
  obtain ⟨turn, among, rfl⟩ := List.mem_map.mp member
  obtain ⟨record, staged, -⟩ := (turned.stages turn among).record
  rw [staged]
  exact List.cons_ne_nil _ _

/-- A batch stages its readings in turns, and commits them if there are any. -/
theorem ingestBatch_turns {moment : Instant} {world : World Tables} (tells : world.now.Tells moment)
    (rules : Option AlertRules) (inputs : List NewReading) (context : OperationContext) :
    ∃ turns later, Turned rules context moment world later inputs turns ∧
      let result : BatchResult := ⟨turns.map fun turn => turn.ingested.readingId,
        failuresFrom (refusal? rules world.store moment) 0 inputs⟩
      (ingestBatch rules inputs context world).1 =
          (if turns.isEmpty then .ok result
          else ((world.store.commit (batchOf turns)).1.map fun _ => result).mapError .store) ∧
        (ingestBatch rules inputs context world).2.store =
          (if turns.isEmpty then world.store else (world.store.commit (batchOf turns)).2) ∧
        (ingestBatch rules inputs context world).2.ids = later.ids := by
  obtain ⟨turns, later, turned, ran⟩ : ∃ turns later,
      Turned rules context moment world later inputs turns ∧
      stageAll rules ((Tables.pick world.store.sensors (sensorsOf inputs) .activeOnly).map
          SensorSnapshot.id) context 0 .empty ⟨[], []⟩ inputs world =
        (.ok (batchOf turns, ⟨turns.map fun turn => turn.ingested.readingId,
          failuresFrom (refusal? rules world.store moment) 0 inputs⟩), later) :=
    stageAll_turns tells (fun _ => mem_active) 0 .empty ⟨[], []⟩
  have kept := turned.looked.store_eq
  refine ⟨turns, later, turned, ?_⟩
  rw [ingestBatch, Task.bind_of_ok (getSensors_apply _ _ _), Task.bind_of_ok ran]
  dsimp only
  rw [isEmpty_batchOf turned]
  cases turns with
  | nil => exact ⟨rfl, kept, rfl⟩
  | cons turn rest =>
    rw [← kept]
    exact concluding_apply _ _ _ later

/-! ## Alone and in a batch -/

/-- The error of a call that was rejected. -/
def rejection? {α : Type} (result : Except IngestError α) : Option IngestError :=
  match result with
  | .ok _ => none
  | .error error => if error.isRejection then some error else none

/-- Why a reading is rejected when it is ingested alone. -/
def rejectionAlone? (rules : Option AlertRules) (context : OperationContext) (world : World Tables)
    (input : NewReading) : Option IngestError :=
  rejection? (ingest rules input context world).1

/-- A reading is rejected alone for the reason for which it is refused in a batch. -/
theorem rejectionAlone?_eq {moment : Instant} {world : World Tables}
    (tells : world.now.Tells moment) (rules : Option AlertRules) (context : OperationContext) :
    rejectionAlone? rules context world = refusal? rules world.store moment := by
  funext input
  have time : world.now.time = moment := tells _
  cases judged : refusal? rules world.store moment input with
  | some error =>
    obtain ⟨left, failed, -⟩ := turn_of_refused (time ▸ judged) context
    rw [rejectionAlone?, failed]
    exact if_pos (isRejection_of_refusal? judged)
  | none =>
    obtain ⟨part, ingested, later, -, -, -, -, -, committed⟩ :=
      turn_of_accepted (time ▸ judged) context
    rw [rejectionAlone?, committed, (concluding_apply part 1 ingested later).1]
    rcases (later.store.commit part).1 with cause | receipt <;> rfl

/-- Whether a batch does to a store what its readings would do alone, in turns. -/
structure BatchAgrees (rules : Option AlertRules) (inputs : List NewReading)
    (context : OperationContext) (world : World Tables) (turns : List Turn)
    (result : BatchResult) : Prop where
  /-- The readings that are not rejected alone have their turns, in order, on the same store. -/
  taken : turns.map Turn.input =
    inputs.filter fun input => (rejectionAlone? rules context world input).isNone
  looked : ∀ turn ∈ turns, OnlyLooked world turn.world
  /-- The others are reported, in order, with the reason for which they are rejected alone. -/
  failures : result.failures = failuresFrom (rejectionAlone? rules context world) 0 inputs
  increasing : (result.failures.map BatchFailure.index).Pairwise (· < ·)
  readingIds : result.readingIds = turns.map fun turn => turn.ingested.readingId
  counted : result.readingIds.length + result.failures.length = inputs.length
  /-- What the turns staged is committed at once, if there were any. -/
  answer : (ingestBatch rules inputs context world).1 =
    if turns.isEmpty then .ok result
    else ((world.store.commit (batchOf turns)).1.map fun _ => result).mapError .store
  store : (ingestBatch rules inputs context world).2.store =
    if turns.isEmpty then world.store else (world.store.commit (batchOf turns)).2
  /-- Nothing is stored of a batch whose commit fails. -/
  atomic : ∀ error, (ingestBatch rules inputs context world).1 = .error error →
    (ingestBatch rules inputs context world).2.store.HoldsAs world.store
  /-- No reading is stored but of a sensor that is active. -/
  guarded : ∀ record ∈ (ingestBatch rules inputs context world).2.store.readings,
    record ∈ world.store.readings ∨ isActive world.store record.sensorId = true
  /-- Under new identifiers, a turn adds to the store alone what it adds in the batch. -/
  exact : world.store.failNextCommit = false →
    world.store.Unseen world.ids.draw world.ids.used
      (ingestBatch rules inputs context world).2.ids.used →
    (ingestBatch rules inputs context world).1 = .ok result ∧
    (ingestBatch rules inputs context world).2.store =
      (if turns.isEmpty then world.store else world.store.grown (batchOf turns)) ∧
    ∀ turn ∈ turns, ∃ left, ingest rules turn.input context turn.world = (.ok turn.ingested, left) ∧
      left.store = world.store.grown turn.part

/-- Readings that a commit leaves were stored before it or were staged. -/
theorem mem_readings_of_commit {tables : Tables} {changes : ChangeSet} {record : ReadingRecord}
    (member : record ∈ (tables.commit changes).2.readings) :
    record ∈ tables.readings ∨ record ∈ changes.readings := by
  rcases Tables.commit_cases tables changes with ⟨error, refused, -⟩ | ⟨taken, -⟩
  · rw [refused] at member
    exact .inl member
  · rw [taken, (Tables.applies_applied tables changes).readings] at member
    refine (List.mem_append.mp member).imp_right fun new => ?_
    obtain ⟨⟨earlier, staged⟩, among, rfl⟩ := List.mem_map.mp new
    exact (mem_of_mem_inTurn (List.mem_filter.mp among).1).1

/-- The readings that a batch commits are of active sensors. -/
theorem Turned.sensors_active {moment : Instant} {world later : World Tables}
    {inputs : List NewReading} {turns : List Turn}
    (turned : Turned rules context moment world later inputs turns)
    {record : ReadingRecord} (member : record ∈ (batchOf turns).readings) :
    isActive world.store record.sensorId = true := by
  obtain ⟨part, among, staged⟩ := List.mem_flatMap.mp member
  obtain ⟨turn, there, rfl⟩ := List.mem_map.mp among
  obtain ⟨row, alone, -, named⟩ := (turned.stages turn there).record
  obtain rfl : record = row := by simpa [alone] using staged
  have taken : turn.input ∈ turns.map Turn.input := List.mem_map_of_mem there
  rw [turned.inputs] at taken
  have accepted := (List.mem_filter.mp taken).2
  obtain ⟨-, active, -⟩ := refusal?_eq_none_iff.mp (Option.isNone_iff_eq_none.mp accepted)
  rw [named]
  exact active

/-- A turn alone adds to the store what it stages, where its identifiers are new. -/
theorem Turn.Stages.alone {world : World Tables} {high : Nat} {turn : Turn}
    (stages : turn.Stages rules context world high) (unset : world.store.failNextCommit = false)
    (unseen : world.store.Unseen world.ids.draw world.ids.used high) :
    ∃ left, ingest rules turn.input context turn.world = (.ok turn.ingested, left) ∧
      left.store = world.store.grown turn.part := by
  obtain ⟨follows, kept, -⟩ := stages.looked
  obtain ⟨later, looked, below, drawn, committed⟩ := stages.commits
  have narrow := unseen.narrow follows.used below
  have same : later.store = world.store := looked.store_eq.trans kept
  rw [← follows.draw, ← same] at narrow
  rw [← same] at unset ⊢
  obtain ⟨entries, concluded⟩ := concluding_of_drawn unset narrow drawn 1 turn.ingested
  exact ⟨_, committed.trans concluded, rfl⟩

theorem ingestBatch_agrees {world : World Tables} {moment : Instant}
    (tells : world.now.Tells moment) (rules : Option AlertRules) (inputs : List NewReading)
    (context : OperationContext) :
    ∃ turns result, BatchAgrees rules inputs context world turns result := by
  have alike := rejectionAlone?_eq tells rules context
  obtain ⟨turns, later, turned, answer, store, used⟩ := ingestBatch_turns tells rules inputs context
  refine ⟨turns, ⟨turns.map fun turn => turn.ingested.readingId,
    failuresFrom (refusal? rules world.store moment) 0 inputs⟩, ?_⟩
  constructor
  case taken => rw [alike, turned.inputs]
  case looked => exact fun turn member => (turned.stages turn member).looked
  case failures => rw [alike]
  case increasing => exact pairwise_failuresFrom _ _ _
  case readingIds => rfl
  case counted =>
    have lengths := length_failuresFrom (refusal? rules world.store moment) 0 inputs
    rw [← turned.inputs, List.length_map] at lengths
    rw [← lengths, List.length_map]
  case answer => exact answer
  case store => exact store
  case atomic => exact (ingestBatch_atomic rules inputs context world).2
  case guarded =>
    intro record member
    rw [store] at member
    split at member
    · exact .inl member
    · exact (mem_readings_of_commit member).imp_right turned.sensors_active
  case exact =>
    intro unset unseen
    rw [used] at unseen
    obtain ⟨receipt, taken⟩ : ∃ receipt,
        world.store.commit (batchOf turns) = (.ok receipt, world.store.grown (batchOf turns)) :=
      Tables.commit_of_drawn unset unseen (turned.drawn.joined_empty "IngestReadingBatch")
    rw [answer, store, taken]
    refine ⟨?_, rfl, fun turn member => (turned.stages turn member).alone unset unseen⟩
    split <;> rfl

/-- While a clock stands still, a batch agrees with single readings entry by entry. A reading is
rejected alone for a fault of its own, else for want of an active sensor, else for a fault of an
alert that rules ask for, and a batch reports it with that reason. A rejected reading leaves what
was staged as it is; the others add to the store what they would add alone. -/
theorem batch_agrees {world : World Tables} {moment : Instant} (tells : world.now.Tells moment)
    (rules : Option AlertRules) (inputs : List NewReading) (context : OperationContext) :
    rejectionAlone? rules context world = refusal? rules world.store moment ∧
    (∀ input error, rejectionAlone? rules context world input = some error →
      ∃ middle, OnlyLooked world middle ∧ ∀ active : List SensorId,
        (input.sensorId ∈ active ↔ isActive world.store input.sensorId = true) →
        ∀ index changes (soFar : BatchResult) rest,
          stageAll rules active context index changes soFar (input :: rest) world =
            stageAll rules active context (index + 1) changes
              { soFar with failures := soFar.failures ++ [failureAt index input error] } rest
              middle) ∧
    ∃ turns result, BatchAgrees rules inputs context world turns result := by
  have alike := rejectionAlone?_eq tells rules context
  refine ⟨alike, fun input error rejected => ?_, ingestBatch_agrees tells rules inputs context⟩
  rw [alike] at rejected
  exact stageAll_of_refused tells rejected context

/-- A freezing morning at two sensors, the second of which is not known. -/
def frostyMorning : List NewReading := [frost, { frost with sensorId := ⟨8⟩ }, frost]

theorem batch_agrees_frostyMorning :
    let after := ingestBatch (some frostRules) frostyMorning ⟨⟨9⟩, none⟩ quietFarm
    quietFarm.now.Tells .epoch ∧ quietFarm.store.failNextCommit = false ∧
    quietFarm.store.Unseen quietFarm.ids.draw quietFarm.ids.used after.2.ids.used ∧
    after.2.store.readings.length = 2 ∧ after.2.store.alerts.length = 2 ∧
    after.2.store.outbox.length = 4 ∧ after.2.store.commits = 1 ∧
    rejectionAlone? (some frostRules) ⟨⟨9⟩, none⟩ quietFarm { frost with sensorId := ⟨8⟩ } =
      some (.sensorNotFound ⟨8⟩) ∧
    ∃ turns result,
      BatchAgrees (some frostRules) frostyMorning ⟨⟨9⟩, none⟩ quietFarm turns result := by
  have used :
      (ingestBatch (some frostRules) frostyMorning ⟨⟨9⟩, none⟩ quietFarm).2.ids.used = 13 := by
    decide +kernel
  have tells : quietFarm.now.Tells .epoch := fun _ => rfl
  refine ⟨tells, rfl, ⟨fresh_quietFarm (by rw [used]; decide), by rintro i - - row ⟨⟩⟩,
    by decide +kernel, by decide +kernel, by decide +kernel, by decide +kernel,
    by decide +kernel, (batch_agrees tells _ _ _).2.2⟩

end Fieldwatch.Ingest
