import Fieldwatch.Proofs.Ingest.Batches

/-!
# What is counted of readings

A batch, and the same readings ingested alone one after the other, store the same rows and reject
the same readings for the same reasons, at whatever times their turns come. Both count the readings
that they store. A batch also counts every reading that it rejects, under its reason; readings
ingested alone are not counted if they are rejected for a fault of an alert that rules ask for.
-/
namespace Fieldwatch

/-- Whether the counts of readings grew by so many accepted, and so many rejected for each
reason. -/
structure Counters.Grew (before after : Counters) (accepted : Nat) (rejected : String → Nat) :
    Prop where
  accepted : after.get .readingsAccepted = before.get .readingsAccepted + accepted
  rejected : ∀ reason, after.get (.readingsRejected reason) =
    before.get (.readingsRejected reason) + rejected reason

namespace Counters.Grew

variable {before between after : Counters} {accepted more : Nat} {rejected others : String → Nat}

theorem refl (counters : Counters) : counters.Grew counters 0 fun _ => 0 :=
  ⟨rfl, fun _ => rfl⟩

theorem trans (first : before.Grew between accepted rejected)
    (second : between.Grew after more others) :
    before.Grew after (accepted + more) fun reason => rejected reason + others reason where
  accepted := by rw [second.accepted, first.accepted, Nat.add_assoc]
  rejected reason := by rw [second.rejected, first.rejected, Nat.add_assoc]

/-- One more reading is rejected. -/
theorem of_rejected (counters : Counters) (reason : String) :
    counters.Grew (counters.add (.readingsRejected reason) 1) 0 fun other =>
      if reason = other then 1 else 0 where
  accepted := by simp [get_add]
  rejected other := by simp [get_add]

/-- Readings are accepted, and entries staged with them. -/
theorem of_accepted (counters : Counters) (entries accepted : Nat) :
    counters.Grew ((counters.add .eventsStaged entries).add .readingsAccepted accepted) accepted
      fun _ => 0 where
  accepted := by simp [get_add]
  rejected other := by simp [get_add]

end Counters.Grew

/-- Rows that were drawn on the first part of a stretch leave the rest of it unseen. -/
theorem Tables.Unseen.grown {tables : Tables} {part : ChangeSet} {draw : Nat → BitVec 128}
    {low middle high : Nat} (unseen : tables.Unseen draw low high)
    (drawn : part.Drawn draw low middle) (up : low ≤ middle) :
    (tables.grown part).Unseen draw middle high where
  toFresh := by
    refine unseen.toFresh.rest up rfl rfl drawn.readings ?_
    rw [List.map_map]
    exact drawn.events
  alerts i from' upTo row member same := by
    rcases List.mem_append.mp member with old | new
    · exact unseen.alerts i (Nat.le_trans up from') upTo row old same
    · obtain ⟨write, among, rfl⟩ := List.mem_map.mp new
      obtain ⟨place, after, before, named⟩ :=
        drawn.alerts.place_of_mem (List.mem_map_of_mem among)
      exact unseen.distinct place i after (by omega) upTo (named.symm.trans same)

namespace Ingest

variable {rules : Option AlertRules} {context : OperationContext}

/-- Ingests readings alone, one after the other. -/
def ingestEach (rules : Option AlertRules) (context : OperationContext) :
    List NewReading → World Tables → List (Except IngestError IngestedReading) × World Tables
  | [], world => ([], world)
  | input :: rest, world =>
    let (answer, left) := ingest rules input context world
    let (answers, last) := ingestEach rules context rest left
    (answer :: answers, last)

/-! ## Arrivals -/

/-- A reading and the moment at which its turn comes. -/
structure Arrival where
  input : NewReading
  moment : Instant

namespace Arrival

variable (rules : Option AlertRules) (tables : Tables)

/-- Why a reading is refused in its turn. -/
def refusal? (arrival : Arrival) : Option IngestError :=
  Ingest.refusal? rules tables arrival.moment arrival.input

def isAccepted (arrival : Arrival) : Bool := (arrival.refusal? rules tables).isNone

def isRejectedFor (reason : String) (arrival : Arrival) : Bool :=
  (arrival.refusal? rules tables).any fun error => error.reason = reason

/-- Whether a reading is refused for a fault of an alert, and for nothing else. -/
def isForAlert (arrival : Arrival) : Bool :=
  Ingest.isForAlert rules tables arrival.moment arrival.input

/-- Whether a reading is refused for a reason, and for no fault of an alert. -/
def isCountedFor (reason : String) (arrival : Arrival) : Bool :=
  arrival.isRejectedFor rules tables reason && !arrival.isForAlert rules tables

variable {rules tables}

theorem isSome_of_isForAlert {arrival : Arrival}
    (forAlert : arrival.isForAlert rules tables = true) :
    ∃ error, arrival.refusal? rules tables = some error := by
  simp only [isForAlert, Ingest.isForAlert, Bool.and_eq_true, Option.isSome_iff_exists] at forAlert
  obtain ⟨⟨sound, active⟩, error, fault⟩ := forAlert
  exact ⟨error, by rw [refusal?, Ingest.refusal?, if_pos sound, if_pos active, fault]⟩

/-- Readings are judged alike by stores with the same sensors. -/
theorem judged_alike (rules : Option AlertRules) {other : Tables}
    (same : other.sensors = tables.sensors) :
    refusal? rules other = refusal? rules tables ∧
      isForAlert rules other = isForAlert rules tables := by
  have active : isActive other = isActive tables := by
    funext id
    rw [isActive, isActive, same]
  constructor
  · funext arrival
    rw [refusal?, refusal?, Ingest.refusal?, Ingest.refusal?, active]
  · funext arrival
    rw [isForAlert, isForAlert, Ingest.isForAlert, Ingest.isForAlert, active]

end Arrival

/-! ## Side by side -/

/-- Whether a world is at the same turn as another: at the same time, with the same identifiers next
and with the same sensors. -/
structure Beside (alone world : World Tables) : Prop where
  now : alone.now = world.now
  ids : alone.ids = world.ids
  sensors : alone.store.sensors = world.store.sensors

/-- A task that only looks answers the same in worlds at the same turn, and leaves them so. -/
theorem Beside.of_looks {alone world left later : World Tables} (beside : Beside alone world)
    {ε α : Type} {task : Task Tables ε α} (looks : task.Looks)
    {answer other : Except ε α} (answered : task alone = (answer, left))
    (answeredToo : task world = (other, later)) :
    answer = other ∧ Beside left later ∧ left.store = alone.store ∧
      left.counters = alone.counters := by
  have kept := (OnlyLooked.of_looks looks answered).store_eq
  have counted := looks.counters_eq answered
  have moved := looks.elsewhere answered world.store world.counters
  have same : { alone with store := world.store, counters := world.counters } = world := by
    obtain ⟨now, ids, store, counters⟩ := world
    obtain ⟨sameNow, sameIds, -⟩ := beside
    rw [sameNow, sameIds]
  rw [same, answeredToo] at moved
  obtain ⟨rfl, rfl⟩ := Prod.mk.inj moved
  exact ⟨rfl, ⟨rfl, rfl, by rw [kept]; exact beside.sensors⟩, kept, counted⟩

/-- What becomes of readings ingested alone, one after the other. -/
structure Alone (rules : Option AlertRules) (context : OperationContext) (tables : Tables)
    (arrivals : List Arrival) (records : List ReadingRecord) (world last : World Tables) :
    Prop where
  left : (ingestEach rules context (arrivals.map Arrival.input) world).2 = last
  answers : (ingestEach rules context (arrivals.map Arrival.input) world).1.map rejection? =
    arrivals.map (Arrival.refusal? rules tables)
  readings : last.store.readings = world.store.readings ++ records
  grew : world.counters.Grew last.counters (arrivals.countP (Arrival.isAccepted rules tables))
    fun reason => arrivals.countP (Arrival.isCountedFor rules tables reason)

/-- Whether readings have their turns between two worlds in which a batch is staged, and what is
staged of them in parts. -/
structure Course (rules : Option AlertRules) (context : OperationContext)
    (world later : World Tables) (arrivals : List Arrival) (parts : List ChangeSet) : Prop where
  looked : OnlyLooked world later
  told : ∀ arrival ∈ arrivals, ∃ count, world.now.tell count = arrival.moment
  drawn : (ChangeSet.ofParts parts).Drawn world.ids.draw world.ids.used later.ids.used
  single : ∀ part ∈ parts, part.readings.length = 1
  stored : parts.length = arrivals.countP (Arrival.isAccepted rules world.store)
  grew : world.counters.Grew later.counters 0
    fun reason => arrivals.countP (Arrival.isRejectedFor rules world.store reason)
  /-- The same readings alone, from the same turn on and under new identifiers. -/
  alone : ∀ alone : World Tables, Beside alone world → alone.store.failNextCommit = false →
    alone.store.Unseen world.ids.draw world.ids.used later.ids.used →
    ∃ last, Beside last later ∧ Alone rules context world.store arrivals
      (ChangeSet.ofParts parts).readings alone last

section Course

variable {world middle later : World Tables} {input : NewReading} {arrivals : List Arrival}
  {parts : List ChangeSet}

theorem Course.nil (world : World Tables) : Course rules context world world [] [] where
  looked := .refl world
  told := by rintro _ ⟨⟩
  drawn := .nil _ _ _
  single := by rintro _ ⟨⟩
  stored := rfl
  grew := .refl _
  alone alone beside _ _ := ⟨alone, beside, rfl, rfl, (List.append_nil _).symm, .refl _⟩

/-- A reading that is refused in a batch is refused alone, at the same turn. -/
theorem Beside.refused {error : IngestError} {alone : World Tables} (beside : Beside alone world)
    (judged : Ingest.refusal? rules world.store world.now.time input = some error)
    {active : List SensorId}
    (agrees : input.sensorId ∈ active ↔ isActive world.store input.sensorId = true)
    (turn : stageOne rules active .empty input context world = (.error (error, .empty), middle)) :
    ∃ left after, ingest rules input context alone = (.error error, after) ∧
      left.store = alone.store ∧ left.counters = alone.counters ∧
      after = (if (⟨input, world.now.time⟩ : Arrival).isForAlert rules world.store then left
        else rejected left error.reason) ∧
      Beside after (rejected middle error.reason) ∧ after.store = alone.store := by
  have looks := stageOne_looks (σ := Tables) rules active .empty input context
  obtain ⟨alike, alikeToo⟩ := Arrival.judged_alike rules beside.sensors
  have judgedToo : Ingest.refusal? rules alone.store alone.now.time input = some error := by
    rw [beside.now]
    exact (congrFun alike ⟨input, world.now.time⟩).trans judged
  have forAlert : Ingest.isForAlert rules alone.store alone.now.time input =
      (⟨input, world.now.time⟩ : Arrival).isForAlert rules world.store := by
    rw [beside.now]
    exact congrFun alikeToo ⟨input, world.now.time⟩
  obtain ⟨left, ran, staged⟩ := turn_of_refused judgedToo context
  rw [isActive, beside.sensors] at staged
  rw [forAlert] at ran
  obtain ⟨-, ⟨now, ids, sensors⟩, kept, counted⟩ :=
    beside.of_looks looks (staged active agrees .empty) turn
  refine ⟨left, _, ran, kept, counted, rfl, ?_, ?_⟩
  · split <;> exact ⟨now, ids, sensors⟩
  · split <;> exact kept

/-- A reading that is taken in a batch is stored alone, at the same turn. -/
theorem Beside.accepted {part : ChangeSet} {ingested : IngestedReading} {alone : World Tables}
    (beside : Beside alone world)
    (judged : Ingest.refusal? rules world.store world.now.time input = none)
    {active : List SensorId} (member : input.sensorId ∈ active)
    (turn : stageOne rules active .empty input context world =
      (.ok (ChangeSet.empty.joined "IngestReadingBatch" part, ingested), middle))
    {high : Nat} (upTo : middle.ids.used ≤ high) (unset : alone.store.failNextCommit = false)
    (unseen : alone.store.Unseen world.ids.draw world.ids.used high) :
    ∃ answer next, ingest rules input context alone = (.ok answer, next) ∧
      Beside next middle ∧ next.store.failNextCommit = false ∧
      next.store.Unseen world.ids.draw middle.ids.used high ∧
      next.store.readings = alone.store.readings ++ part.readings ∧
      alone.counters.Grew next.counters 1 fun _ => 0 := by
  have looks := stageOne_looks (σ := Tables) rules active .empty input context
  have lookedOn := OnlyLooked.of_looks looks turn
  obtain ⟨alike, -⟩ := Arrival.judged_alike rules beside.sensors
  have judgedToo : Ingest.refusal? rules alone.store alone.now.time input = none := by
    rw [beside.now]
    exact (congrFun alike ⟨input, world.now.time⟩).trans judged
  obtain ⟨own, answer, left, drawn, -, -, -, staged, committed⟩ :=
    turn_of_accepted judgedToo context
  obtain ⟨same, besideLeft, kept, counted⟩ :=
    beside.of_looks looks (staged active member .empty) turn
  have records : own.readings = part.readings := by
    have joined := (Prod.mk.inj (Except.ok.inj same)).1
    simpa [ChangeSet.joined, ChangeSet.empty] using congrArg ChangeSet.readings joined
  have up : alone.ids.used ≤ left.ids.used := by
    rw [beside.ids, besideLeft.ids]
    exact lookedOn.follows.used
  rw [← beside.ids] at unseen
  obtain ⟨next, ran, now, ids, store, grew⟩ : ∃ next,
      ingest rules input context alone = (.ok answer, next) ∧ next.now = left.now ∧
      next.ids = left.ids ∧ next.store = alone.store.grown own ∧
      alone.counters.Grew next.counters 1 fun _ => 0 := by
    have narrow := unseen.narrow (Nat.le_refl _) (besideLeft.ids ▸ upTo)
    rw [← kept] at unset narrow ⊢
    rw [← counted]
    obtain ⟨entries, concluded⟩ := concluding_of_drawn unset narrow drawn 1 answer
    exact ⟨_, committed.trans concluded, rfl, rfl, rfl, .of_accepted _ _ _⟩
  have fresh := unseen.grown drawn up
  rw [← store, besideLeft.ids, beside.ids] at fresh
  refine ⟨answer, next, ran, ⟨now.trans besideLeft.now, ids.trans besideLeft.ids, ?_⟩, ?_, fresh,
    ?_, grew⟩
  · rw [store, lookedOn.store_eq]
    exact beside.sensors
  · rw [store]
    exact unset
  · rw [store, ← records]
    rfl

/-- A refused reading is rejected alone as in the batch, but is not counted alone if it is refused
for a fault of an alert. -/
theorem Alone.refused {error : IngestError} {alone left last : World Tables} {tables : Tables}
    {records : List ReadingRecord} {arrival : Arrival}
    (rest : Alone rules context tables arrivals records
      (if arrival.isForAlert rules tables then left else rejected left error.reason) last)
    (judged : arrival.refusal? rules tables = some error)
    (ran : ingest rules arrival.input context alone = (.error error,
      if arrival.isForAlert rules tables then left else rejected left error.reason))
    (kept : left.store = alone.store) (counted : left.counters = alone.counters) :
    Alone rules context tables (arrival :: arrivals) records alone last := by
  have rejects : rejection? (.error error : Except IngestError IngestedReading) = some error :=
    if_pos (isRejection_of_refusal? judged)
  constructor
  case left =>
    rw [List.map_cons, ingestEach, ran]
    exact rest.left
  case answers =>
    rw [List.map_cons, ingestEach, ran, List.map_cons, rejects, List.map_cons, judged]
    exact congrArg _ rest.answers
  case readings =>
    have readings := rest.readings
    split at readings
    · rw [readings, kept]
    · rw [readings, ← kept]
      rfl
  case grew =>
    have grew := rest.grew
    have refused : arrival.isAccepted rules tables = false := by
      simp [Arrival.isAccepted, judged]
    have known (reason : String) :
        arrival.isCountedFor rules tables reason =
          (decide (error.reason = reason) && !arrival.isForAlert rules tables) := by
      simp [Arrival.isCountedFor, Arrival.isRejectedFor, judged]
    simp only [List.countP_cons, refused, known]
    cases forAlert : arrival.isForAlert rules tables with
    | true =>
      rw [forAlert, if_pos rfl, counted] at grew
      simpa using grew
    | false =>
      rw [forAlert, if_neg Bool.false_ne_true, rejected, counted] at grew
      simpa [Nat.add_comm] using (Counters.Grew.of_rejected _ error.reason).trans grew

/-- A reading that is not refused is stored alone, and counted. -/
theorem Alone.accepted {ingested : IngestedReading} {alone next last : World Tables}
    {tables : Tables} {here records : List ReadingRecord} {arrival : Arrival}
    (rest : Alone rules context tables arrivals records next last)
    (judged : arrival.refusal? rules tables = none)
    (ran : ingest rules arrival.input context alone = (.ok ingested, next))
    (readings : next.store.readings = alone.store.readings ++ here)
    (grew : alone.counters.Grew next.counters 1 fun _ => 0) :
    Alone rules context tables (arrival :: arrivals) (here ++ records) alone last := by
  constructor
  case left =>
    rw [List.map_cons, ingestEach, ran]
    exact rest.left
  case answers =>
    rw [List.map_cons, ingestEach, ran, List.map_cons, List.map_cons, judged]
    exact congrArg _ rest.answers
  case readings => rw [rest.readings, readings, List.append_assoc]
  case grew =>
    simpa [List.countP_cons, Arrival.isAccepted, Arrival.isCountedFor, Arrival.isRejectedFor,
      judged, Nat.add_comm] using grew.trans rest.grew

theorem Course.refused {error : IngestError}
    (judged : Ingest.refusal? rules world.store world.now.time input = some error)
    {active : List SensorId}
    (agrees : input.sensorId ∈ active ↔ isActive world.store input.sensorId = true)
    (turn : stageOne rules active .empty input context world = (.error (error, .empty), middle))
    (rest : Course rules context (rejected middle error.reason) later arrivals parts) :
    Course rules context world later (⟨input, world.now.time⟩ :: arrivals) parts := by
  have looks := stageOne_looks (σ := Tables) rules active .empty input context
  have lookedOn : OnlyLooked world (rejected middle error.reason) := by
    obtain ⟨⟨draw, used⟩, store, tell⟩ := OnlyLooked.of_looks looks turn
    exact ⟨⟨draw, used⟩, store, tell⟩
  have kept : (rejected middle error.reason).store = world.store := lookedOn.store_eq
  have judged : (⟨input, world.now.time⟩ : Arrival).refusal? rules world.store = some error :=
    judged
  constructor
  case looked => exact lookedOn.trans rest.looked
  case told =>
    refine List.forall_mem_cons.mpr ⟨⟨world.now.reads, rfl⟩, ?_⟩
    rw [← lookedOn.tell_eq]
    exact rest.told
  case drawn =>
    have drawn := rest.drawn
    rw [lookedOn.follows.draw] at drawn
    exact drawn.widen lookedOn.follows.used (Nat.le_refl _)
  case single => exact rest.single
  case stored =>
    rw [rest.stored, kept, List.countP_cons_of_neg (by simp [Arrival.isAccepted, judged])]
  case grew =>
    have grew := rest.grew
    rw [kept, rejected, looks.counters_eq turn] at grew
    simpa [Arrival.isRejectedFor, judged, List.countP_cons, Nat.add_comm]
      using (Counters.Grew.of_rejected _ error.reason).trans grew
  case alone =>
    intro alone beside unset unseen
    obtain ⟨left, after, ran, keptLeft, counted, after_eq, besideAfter, keptAfter⟩ :=
      beside.refused judged agrees turn
    have narrowed := unseen.narrow lookedOn.follows.used (Nat.le_refl _)
    rw [← lookedOn.follows.draw, ← keptAfter] at narrowed
    obtain ⟨last, besideLast, went⟩ :=
      rest.alone after besideAfter (by rw [keptAfter, unset]) narrowed
    rw [kept, after_eq] at went
    rw [after_eq] at ran
    exact ⟨last, besideLast, went.refused judged ran keptLeft counted⟩

theorem Course.accepted {part : ChangeSet} {ingested : IngestedReading}
    (judged : Ingest.refusal? rules world.store world.now.time input = none)
    {active : List SensorId} (member : input.sensorId ∈ active)
    (turn : stageOne rules active .empty input context world =
      (.ok (ChangeSet.empty.joined "IngestReadingBatch" part, ingested), middle))
    (drawn : part.Drawn world.ids.draw world.ids.used middle.ids.used)
    (single : part.readings.length = 1)
    (rest : Course rules context middle later arrivals parts) :
    Course rules context world later (⟨input, world.now.time⟩ :: arrivals) (part :: parts) := by
  have looks := stageOne_looks (σ := Tables) rules active .empty input context
  have lookedOn := OnlyLooked.of_looks looks turn
  have kept : middle.store = world.store := lookedOn.store_eq
  have judged : (⟨input, world.now.time⟩ : Arrival).refusal? rules world.store = none := judged
  constructor
  case looked => exact lookedOn.trans rest.looked
  case told =>
    refine List.forall_mem_cons.mpr ⟨⟨world.now.reads, rfl⟩, ?_⟩
    rw [← lookedOn.tell_eq]
    exact rest.told
  case drawn =>
    have others := rest.drawn
    rw [lookedOn.follows.draw] at others
    exact drawn.cons others lookedOn.follows.used rest.looked.follows.used
  case single => exact List.forall_mem_cons.mpr ⟨single, rest.single⟩
  case stored =>
    rw [List.length_cons, rest.stored, kept,
      List.countP_cons_of_pos (by simp [Arrival.isAccepted, judged])]
  case grew =>
    have grew := rest.grew
    rw [kept, looks.counters_eq turn] at grew
    simpa [Arrival.isRejectedFor, judged, List.countP_cons] using grew
  case alone =>
    intro alone beside unset unseen
    obtain ⟨answer, next, ran, besideNext, unsetNext, fresh, readings, grew⟩ :=
      beside.accepted judged member turn rest.looked.follows.used unset unseen
    rw [← lookedOn.follows.draw] at fresh
    obtain ⟨last, besideLast, went⟩ := rest.alone next besideNext unsetNext fresh
    rw [kept] at went
    exact ⟨last, besideLast, went.accepted judged ran readings grew⟩

/-- The readings of a batch have their turns in order, each as it would have it alone. -/
theorem stageAll_course (context : OperationContext) {inputs : List NewReading}
    {active : List SensorId}
    (agrees : ∀ input ∈ inputs,
      (input.sensorId ∈ active ↔ isActive world.store input.sensorId = true)) :
    ∃ arrivals parts later, Course rules context world later arrivals parts ∧
      arrivals.map Arrival.input = inputs ∧
      ∀ index changes (soFar : BatchResult), ∃ failures : List BatchFailure,
        failures.map BatchFailure.reason =
          arrivals.filterMap (fun arrival =>
            (arrival.refusal? rules world.store).map IngestError.reason) ∧
        stageAll rules active context index changes soFar inputs world =
          (.ok (changes.joined "IngestReadingBatch" (.ofParts parts),
            ⟨soFar.readingIds ++ (ChangeSet.ofParts parts).readings.map ReadingRecord.id,
              soFar.failures ++ failures⟩), later) := by
  induction inputs generalizing world with
  | nil =>
    refine ⟨[], [], world, .nil world, rfl, fun index changes soFar => ⟨[], rfl, ?_⟩⟩
    have same : changes.joined "IngestReadingBatch" (.ofParts []) = changes := ChangeSet.joined_nil
    rw [same]
    simp [stageAll, ChangeSet.ofParts]
  | cons input rest ih =>
    have here := agrees input List.mem_cons_self
    have looks (changes : ChangeSet) :=
      stageOne_looks (σ := Tables) rules active changes input context
    have onward {middle : World Tables} (kept : middle.store = world.store) :=
      @ih middle fun other member => kept ▸ agrees other (List.mem_cons_of_mem _ member)
    cases judged : Ingest.refusal? rules world.store world.now.time input with
    | some error =>
      obtain ⟨middle, -, failed⟩ := turn_of_refused judged context
      have kept : (rejected middle error.reason).store = world.store :=
        (OnlyLooked.of_looks (looks .empty) (failed active here .empty)).store_eq
      obtain ⟨arrivals, parts, later, course, named, goesOn⟩ := onward kept
      refine ⟨⟨input, world.now.time⟩ :: arrivals, parts, later,
        course.refused judged here (failed active here .empty), by rw [List.map_cons, named],
        fun index changes soFar => ?_⟩
      obtain ⟨failures, reasons, ran⟩ := goesOn (index + 1) changes
        { soFar with failures := soFar.failures ++ [failureAt index input error] }
      refine ⟨failureAt index input error :: failures, ?_, ?_⟩
      · rw [kept] at reasons
        have judged : (⟨input, world.now.time⟩ : Arrival).refusal? rules world.store = some error :=
          judged
        simp [judged, reasons, failureAt]
      · simp only [stageAll, failed active here changes, isRejection_of_refusal? judged, if_true]
        refine ran.trans ?_
        simp
    | none =>
      obtain ⟨-, isHere, -⟩ := refusal?_eq_none_iff.mp judged
      obtain ⟨part, ingested, middle, drawn, single, identified, -, staged, -⟩ :=
        turn_of_accepted judged context
      have taken := staged active (here.mpr isHere)
      have kept : middle.store = world.store :=
        (OnlyLooked.of_looks (looks .empty) (taken .empty)).store_eq
      obtain ⟨arrivals, parts, later, course, named, goesOn⟩ := onward kept
      refine ⟨⟨input, world.now.time⟩ :: arrivals, part :: parts, later,
        course.accepted judged (here.mpr isHere) (taken .empty) drawn (by rw [single]; rfl),
        by rw [List.map_cons, named], fun index changes soFar => ?_⟩
      obtain ⟨failures, reasons, ran⟩ := goesOn (index + 1)
        (changes.joined "IngestReadingBatch" part)
        { soFar with readingIds := soFar.readingIds ++ [ingested.readingId] }
      refine ⟨failures, ?_, ?_⟩
      · rw [kept] at reasons
        have judged : (⟨input, world.now.time⟩ : Arrival).refusal? rules world.store = none :=
          judged
        simp [judged, reasons]
      · simp only [stageAll, taken changes]
        refine ran.trans ?_
        rw [ChangeSet.joined_cons]
        simp [ChangeSet.ofParts, single, identified]

theorem Course.readings_length (course : Course rules context world later arrivals parts) :
    (ChangeSet.ofParts parts).readings.length =
      arrivals.countP (Arrival.isAccepted rules world.store) := by
  rw [← course.stored]
  have single := course.single
  clear course
  induction parts with
  | nil => rfl
  | cons part rest ih =>
    obtain ⟨here, others⟩ := List.forall_mem_cons.mp single
    have lengths := ih others
    simp only [ChangeSet.ofParts, List.flatMap_cons, List.length_append,
      List.length_cons] at lengths ⊢
    omega

end Course

/-! ## Both ways -/

/-- Whether a batch and single calls tell of the same readings: what each stores, what each counts,
and when the counts agree. -/
structure Accounted (rules : Option AlertRules) (inputs : List NewReading)
    (context : OperationContext) (world : World Tables) (arrivals : List Arrival)
    (result : BatchResult) : Prop where
  /-- The readings have their turns in order, each at a time that the clock tells. -/
  arrived : arrivals.map Arrival.input = inputs
  told : ∀ arrival ∈ arrivals, ∃ count, world.now.tell count = arrival.moment
  /-- Both reject the same readings for the same reasons. -/
  answer : (ingestBatch rules inputs context world).1 = .ok result
  reported : result.failures.map BatchFailure.reason = arrivals.filterMap fun arrival =>
    (arrival.refusal? rules world.store).map IngestError.reason
  answers : (ingestEach rules context inputs world).1.map rejection? =
    arrivals.map (Arrival.refusal? rules world.store)
  /-- Both store the others. -/
  stored : ∃ records : List ReadingRecord,
    records.length = arrivals.countP (Arrival.isAccepted rules world.store) ∧
    result.readingIds = records.map ReadingRecord.id ∧
    (ingestBatch rules inputs context world).2.store.readings = world.store.readings ++ records ∧
    (ingestEach rules context inputs world).2.store.readings = world.store.readings ++ records
  /-- The batch counts each reading once. -/
  batch : world.counters.Grew (ingestBatch rules inputs context world).2.counters
    (arrivals.countP (Arrival.isAccepted rules world.store))
    fun reason => arrivals.countP (Arrival.isRejectedFor rules world.store reason)
  /-- Single calls do not count the readings that are refused for a fault of an alert. -/
  alone : world.counters.Grew (ingestEach rules context inputs world).2.counters
    (arrivals.countP (Arrival.isAccepted rules world.store))
    fun reason => arrivals.countP (Arrival.isCountedFor rules world.store reason)
  /-- So they count alike exactly when no reading is refused for one. -/
  agree_iff : (∀ reason,
      (ingestBatch rules inputs context world).2.counters.get (.readingsRejected reason) =
        (ingestEach rules context inputs world).2.counters.get (.readingsRejected reason)) ↔
    ∀ arrival ∈ arrivals, arrival.isForAlert rules world.store = false

/-- Each rejected reading is counted or refused for an alert. -/
theorem countP_isRejectedFor (rules : Option AlertRules) (tables : Tables) (reason : String)
    (arrivals : List Arrival) :
    arrivals.countP (Arrival.isRejectedFor rules tables reason) =
      arrivals.countP (Arrival.isCountedFor rules tables reason) +
        (arrivals.filter (Arrival.isForAlert rules tables)).countP
          (Arrival.isRejectedFor rules tables reason) := by
  rw [List.countP_eq_countP_filter_add _ _ (Arrival.isForAlert rules tables), Nat.add_comm]
  congr 1
  rw [List.countP_filter]
  rfl

/-- The counts of both agree exactly when no reading is refused for a fault of an alert. -/
theorem counts_agree_iff (rules : Option AlertRules) (tables : Tables) (arrivals : List Arrival) :
    (∀ reason, arrivals.countP (Arrival.isRejectedFor rules tables reason) =
        arrivals.countP (Arrival.isCountedFor rules tables reason)) ↔
      ∀ arrival ∈ arrivals, arrival.isForAlert rules tables = false := by
  constructor
  · intro agree arrival member
    by_contra forAlert
    have forAlert : arrival.isForAlert rules tables = true := by simpa using forAlert
    obtain ⟨error, refused⟩ := Arrival.isSome_of_isForAlert forAlert
    have split := countP_isRejectedFor rules tables error.reason arrivals
    rw [agree error.reason, Nat.left_eq_add, List.countP_eq_zero] at split
    refine split arrival (List.mem_filter.mpr ⟨member, forAlert⟩) ?_
    simp [Arrival.isRejectedFor, refused]
  · intro own reason
    have none : arrivals.filter (Arrival.isForAlert rules tables) = [] := by
      simpa [List.filter_eq_nil_iff] using own
    rw [countP_isRejectedFor, none]
    rfl

/-- A batch commits what was staged in its turns, if there was any. -/
theorem ingestBatch_course (world : World Tables) (rules : Option AlertRules)
    (inputs : List NewReading) (context : OperationContext) :
    ∃ arrivals parts later, Course rules context world later arrivals parts ∧
      arrivals.map Arrival.input = inputs ∧
      ∃ failures : List BatchFailure,
        failures.map BatchFailure.reason =
          arrivals.filterMap (fun arrival =>
            (arrival.refusal? rules world.store).map IngestError.reason) ∧
        ingestBatch rules inputs context world =
          (let result : BatchResult :=
            ⟨(ChangeSet.ofParts parts).readings.map ReadingRecord.id, failures⟩
          if parts.isEmpty then pure result
          else concluding (ChangeSet.empty.joined "IngestReadingBatch" (.ofParts parts))
            result.readingIds.length result) later := by
  obtain ⟨arrivals, parts, later, course, arrived, staged⟩ :
      ∃ arrivals parts later, Course rules context world later arrivals parts ∧
        arrivals.map Arrival.input = inputs ∧ _ :=
    stageAll_course context fun _ => mem_active
  obtain ⟨failures, reasons, ran⟩ := staged 0 .empty ⟨[], []⟩
  refine ⟨arrivals, parts, later, course, arrived, failures, reasons, ?_⟩
  have some : ∀ part ∈ parts, part.readings ≠ [] := fun part member none => by
    simpa [none] using course.single part member
  rw [ingestBatch, Task.bind_of_ok (getSensors_apply _ _ _), Task.bind_of_ok ran]
  dsimp only
  rw [isEmpty_joined_ofParts _ some]
  cases parts <;> rfl

/-- What a batch of readings counts is what they count alone, but for those that are refused for a
fault of an alert that rules ask for: the batch counts them as rejected, and single calls do not. -/
theorem readings_accounted {world : World Tables} (rules : Option AlertRules)
    (inputs : List NewReading) (context : OperationContext)
    (unset : world.store.failNextCommit = false)
    (unseen : world.store.Unseen world.ids.draw world.ids.used
      (ingestBatch rules inputs context world).2.ids.used) :
    ∃ arrivals result, Accounted rules inputs context world arrivals result := by
  obtain ⟨arrivals, parts, later, course, arrived, failures, reasons, ran⟩ :=
    ingestBatch_course world rules inputs context
  have kept := course.looked.store_eq
  have used : (ingestBatch rules inputs context world).2.ids = later.ids := by
    rw [ran]
    cases parts with
    | nil => rfl
    | cons part rest => exact (concluding_apply _ _ _ later).2.2
  rw [used] at unseen
  obtain ⟨after, answered, readings, accepted⟩ : ∃ after,
      ingestBatch rules inputs context world =
        (.ok ⟨(ChangeSet.ofParts parts).readings.map ReadingRecord.id, failures⟩, after) ∧
      after.store.readings = world.store.readings ++ (ChangeSet.ofParts parts).readings ∧
      later.counters.Grew after.counters (ChangeSet.ofParts parts).readings.length fun _ => 0 := by
    cases parts with
    | nil => exact ⟨later, ran, by rw [kept]; exact (List.append_nil _).symm, .refl _⟩
    | cons part rest =>
      have drawn := course.drawn.joined_empty "IngestReadingBatch"
      rw [← kept] at unset unseen
      obtain ⟨entries, concluded⟩ := concluding_of_drawn unset unseen drawn _ _
      refine ⟨_, ran.trans concluded, by rw [← kept]; rfl, ?_⟩
      rw [← List.length_map ReadingRecord.id]
      exact .of_accepted _ _ _
  obtain ⟨last, -, alone⟩ := course.alone world ⟨rfl, rfl, rfl⟩ unset unseen
  obtain ⟨left, answers, stored, grew⟩ := alone
  rw [arrived] at left answers
  have batch := course.grew.trans accepted
  rw [course.readings_length, Nat.zero_add] at batch
  have after_eq : (ingestBatch rules inputs context world).2 = after := congrArg Prod.snd answered
  refine ⟨arrivals, ⟨(ChangeSet.ofParts parts).readings.map ReadingRecord.id, failures⟩, ?_⟩
  constructor
  case arrived => exact arrived
  case told => exact course.told
  case answer => exact congrArg Prod.fst answered
  case reported => exact reasons
  case answers => exact answers
  case stored =>
    exact ⟨_, course.readings_length, rfl, by rw [after_eq, readings], by rw [left, stored]⟩
  case batch =>
    rw [after_eq]
    exact batch
  case alone =>
    rw [left]
    exact grew
  case agree_iff =>
    rw [after_eq, left, ← counts_agree_iff]
    refine forall_congr' fun reason => ?_
    rw [batch.rejected, grew.rejected, Nat.add_zero, Nat.add_left_cancel_iff]

/-- Rules by which no battery is charged enough. -/
def boundlessRules : AlertRules := { AlertRules.standard with lowBattery := .infinity }

/-- A half charged battery at the sensor of the quiet farm. -/
def halfCharged : NewReading :=
  ⟨⟨1⟩, .epoch, { Metrics.none with batteryLevel := some (.ofInt 50) }⟩

/-- A reading that is rejected for the threshold of its alert is counted in a batch and not
alone. -/
theorem halfCharged_uncounted :
    let batch := ingestBatch (some boundlessRules) [halfCharged] ⟨⟨9⟩, none⟩ quietFarm
    let each := ingestEach (some boundlessRules) ⟨⟨9⟩, none⟩ [halfCharged] quietFarm
    quietFarm.store.failNextCommit = false ∧
    quietFarm.store.Unseen quietFarm.ids.draw quietFarm.ids.used batch.2.ids.used ∧
    batch.1 = .ok ⟨[], [⟨0, ⟨1⟩, "validation",
      "Validation failed: validation failed: threshold must be a finite number"⟩]⟩ ∧
    each.1 = [.error (.validation ⟨[⟨"threshold", "must be a finite number"⟩]⟩)] ∧
    batch.2.counters.get (.readingsRejected "validation") = 1 ∧
    each.2.counters.get (.readingsRejected "validation") = 0 := by
  have used : (ingestBatch (some boundlessRules) [halfCharged] ⟨⟨9⟩, none⟩ quietFarm).2.ids.used =
      2 := by
    decide +kernel
  refine ⟨rfl, ⟨fresh_quietFarm (by rw [used]; decide), by rintro i - - row ⟨⟩⟩, ?_⟩
  decide +kernel

/-- Of a frost, a reading of a sensor that is not known and a half charged battery, one is stored
both ways; the batch counts the other two, and single calls the first of them. -/
theorem coldMorning_accounted :
    let inputs := [frost, { frost with sensorId := ⟨8⟩ }, halfCharged]
    let batch := ingestBatch (some boundlessRules) inputs ⟨⟨9⟩, none⟩ quietFarm
    quietFarm.store.failNextCommit = false ∧
    quietFarm.store.Unseen quietFarm.ids.draw quietFarm.ids.used batch.2.ids.used ∧
    batch.2.store.readings.length = 1 ∧
    ∃ arrivals result,
      Accounted (some boundlessRules) inputs ⟨⟨9⟩, none⟩ quietFarm arrivals result := by
  have used : (ingestBatch (some boundlessRules)
      [frost, { frost with sensorId := ⟨8⟩ }, halfCharged] ⟨⟨9⟩, none⟩ quietFarm).2.ids.used =
        6 := by
    decide +kernel
  have unseen : quietFarm.store.Unseen quietFarm.ids.draw quietFarm.ids.used
      (ingestBatch (some boundlessRules) [frost, { frost with sensorId := ⟨8⟩ }, halfCharged]
        ⟨⟨9⟩, none⟩ quietFarm).2.ids.used :=
    ⟨fresh_quietFarm (by rw [used]; decide), by rintro i - - row ⟨⟩⟩
  exact ⟨rfl, unseen, by decide +kernel, readings_accounted _ _ _ rfl unseen⟩

end Ingest
end Fieldwatch
