import Fieldwatch.Proofs.Inbox.Consumers

/-!
# Races over one event

Several consumers may handle the same event at the same time. Those that load it before the first
of them has finished decide to write what that one writes, and those that load it later pass it
over. What the former write afterwards is ignored, or puts the same row in the same place, but for
the times at which it was processed: the store is left as if the event had been handled once.
-/
namespace Fieldwatch.Inbox

open Tables (find? write? overwrite placed)

/-! ## Times of processing -/

/-- The rows of a table without the time of their last update, and those without that and the time
at which they were made. -/
class Stamped (σ : Type) where
  unstamped : σ → σ
  undated : σ → σ

instance : Stamped SensorSnapshot where
  unstamped sensor := { sensor with updatedAt := none }
  undated sensor := { sensor with updatedAt := none, createdAt := .epoch }

instance : Stamped OwnerSnapshot where
  unstamped owner := { owner with updatedAt := none }
  undated owner := { owner with updatedAt := none, createdAt := .epoch }

section Rows

variable {σ : Type} {kind : IdKind} [Snapshot σ kind] [Stamped σ] {rows : List σ} {row last : σ}
  {rule : Rule σ kind} {write : SnapshotWrite σ kind} {now : Instant}

/-- A row without the time of its last update and, if it is not in a table yet, without the time at
which it was made. -/
def timeless (rows : List σ) (row : σ) : σ :=
  if (find? rows (Snapshot.id row)).isSome then Stamped.unstamped row else Stamped.undated row

/-- Whether two tables that came of one have the same rows, but for the times of their last updates
and, of those that are new, the times at which they were made. -/
def SameRows (rows once after : List σ) : Prop :=
  after.map (timeless rows) = once.map (timeless rows)

theorem sameRows_placed (same : Snapshot.id last = Snapshot.id row)
    (alike : timeless rows last = timeless rows row) :
    SameRows rows (placed rows row) (placed rows last) := by
  unfold SameRows
  cases found : find? rows (Snapshot.id row) with
  | none => simp [Tables.placed_of_absent found, Tables.placed_of_absent (same ▸ found), alike]
  | some old =>
    rw [Tables.placed_of_found found, Tables.placed_of_found (same ▸ found), overwrite, overwrite,
      List.map_map, List.map_map]
    refine List.map_congr_left fun other _ => ?_
    by_cases here : Snapshot.id other = Snapshot.id row
    · simp [here, same, alike]
    · simp [here, same]

/-- What a rule keeps when it decides again at another time: it makes and changes rows in the same
way but for the times of processing, and on a row that it has changed, the write of another change
is ignored or takes its place. -/
structure Rule.Repeats (rule : Rule σ kind) : Prop where
  undated_create : ∀ {create}, rule.create? = some create → ∀ now later,
    Stamped.undated (create now) = Stamped.undated (create later)
  unstamped_change : ∀ row now later,
    Stamped.unstamped (rule.change row now) = Stamped.unstamped (rule.change row later)
  write_again : ∀ {rows row now}, find? rows rule.id = some (rule.change row now) → ∀ later,
    write? rows (rule.write row later) = none ∨
      write? rows (rule.write row later) = some (overwrite rows (rule.change row later))

/-- The rows that a rule may leave in a table. -/
structure Rule.Leaves (rule : Rule σ kind) (rows : List σ) (row : σ) : Prop where
  owns : Snapshot.id row = rule.id
  shown : rule.shows row = true
  next : ∃ now, rule.next (find? rows rule.id) now = some row

theorem Rule.Leaves.timeless_eq (repeats : rule.Repeats) (first : rule.Leaves rows row)
    (again : rule.Leaves rows last) : timeless rows last = timeless rows row := by
  obtain ⟨owns, -, now, made⟩ := first
  obtain ⟨ownsLast, -, later, madeLast⟩ := again
  rw [timeless, timeless, owns, ownsLast]
  cases found : find? rows rule.id with
  | none =>
    rw [found] at made madeLast
    obtain ⟨create, creates, rfl⟩ := Option.map_eq_some_iff.mp made
    obtain ⟨_, same, rfl⟩ := Option.map_eq_some_iff.mp madeLast
    cases creates.symm.trans same
    exact repeats.undated_create creates later now
  | some old =>
    rw [found, Rule.next] at made madeLast
    obtain rfl := Option.some.inj made
    obtain rfl := Option.some.inj madeLast
    simp only [Option.isSome_some, if_true]
    split
    · rfl
    · exact repeats.unstamped_change old later now

/-- What was staged on a table before another row was placed there is ignored, or places a row that
the rule may leave. -/
theorem Rule.Leaves.write_again (leaves : rule.Leaves rows row) (repeats : rule.Repeats)
    (lawful : rule.Lawful) (staged : rule.staged? (find? rows rule.id) now = some write) :
    write? (placed rows row) write = none ∨
      ∃ last, rule.Leaves rows last ∧ write? (placed rows row) write = some (placed rows last) := by
  have found : find? (placed rows row) rule.id = some row := by
    rw [Tables.find?_placed, if_pos leaves.owns]
  obtain ⟨last, owns, next, shown, -⟩ := lawful.write_staged staged
  obtain ⟨earlier, made⟩ := leaves.next
  rcases Rule.staged?_cases staged with
    ⟨create, -, creates, rfl⟩ | ⟨old, there, fresh, current, rfl⟩
  · -- The row that was added first stays.
    refine .inl ?_
    rw [write?, lawful.id_create creates now, found]
    rfl
  · simp only [there, Rule.next, fresh, current, Bool.or_self, Bool.false_eq_true, if_false,
      Option.some.injEq] at made next
    subst made
    rcases repeats.write_again found now with ignored | taken
    · exact .inl ignored
    · refine .inr ⟨last, ⟨owns, shown, now, ?_⟩, ?_⟩
      · simp [there, Rule.next, fresh, current, next]
      · rw [taken, next, Tables.placed_of_found (leaves.owns ▸ there),
          Tables.placed_of_found (owns ▸ there),
          Tables.overwrite_overwrite rows (owns.trans leaves.owns.symm)]

theorem Rule.Repeats.of_updates (lawful : rule.Lawful)
    (undated_create : ∀ {create}, rule.create? = some create → ∀ now later,
      Stamped.undated (create now) = Stamped.undated (create later))
    (unstamped_change : ∀ row now later,
      Stamped.unstamped (rule.change row now) = Stamped.unstamped (rule.change row later))
    (updates : ∀ row now, rule.write row now = .update (rule.change row now)) : rule.Repeats where
  undated_create := undated_create
  unstamped_change := unstamped_change
  write_again {_ row now} found later := by
    rw [updates]
    exact .inr (Tables.write?_update found
      ((lawful.id_change row later).trans (lawful.id_change row now).symm))

end Rows

theorem SensorRuling.repeats {policy : StalenessPolicy} {message : Message}
    {rule : Rule SensorSnapshot .sensor} (ruling : SensorRuling policy message rule) :
    rule.Repeats := by
  refine .of_updates ruling.lawful ?_ ?_ ?_
  · cases ruling <;> rintro _ ⟨⟩ _ _
    rfl
  · cases ruling <;> exact fun _ _ _ => rfl
  · cases ruling <;> exact fun _ _ => rfl

theorem OwnerRuling.repeats {policy : StalenessPolicy} {message : Message}
    {rule : Rule OwnerSnapshot .owner} (ruling : OwnerRuling policy message rule) :
    rule.Repeats := by
  cases ruling with
  | creation checked =>
    exact .of_updates (userCreation_lawful _ _ _) (by rintro _ ⟨⟩ _ _; rfl) (fun _ _ _ => rfl)
      fun _ _ => rfl
  | update checked =>
    exact .of_updates (userUpdate_lawful _ _ _) (by rintro _ ⟨⟩) (fun _ _ _ => rfl) fun _ _ => rfl
  | @deactivation event _ =>
    refine ⟨by rintro _ ⟨⟩, fun _ _ _ => rfl, ?_⟩
    -- The row is inactive by now, and retiring it again is ignored.
    intro rows owner now found later
    refine .inl ?_
    have owns : owner.id = event.ownerId := Tables.id_of_find? found
    change write? rows (.delete owner.id event.occurredOn later) = none
    rw [owns, write?, show find? rows event.ownerId = _ from found]
    rfl

/-! ## Races -/

/-- Whether a move is one of consumers that all handle one event while commits succeed. -/
inductive Move.Over (policy : StalenessPolicy) (message : Message) : Move → Prop
  | pause (clock : Clock) (drawn : Nat) : Over policy message (.pause clock drawn false)
  | load (context : MessageContext) : Over policy message (.load policy message context)
  | finish (place : Nat) : Over policy message (.finish place)

section Races

variable {σ : Type} {kind : IdKind} [Snapshot σ kind] [Shelf σ] {rule : Rule σ kind}
  {policy : StalenessPolicy} {message : Message} {start : Tables} {consumers : Consumers}

/-- What a consumer may have decided: to pass the event over, or what the rule stages on the store
as it was when the race began. -/
inductive Rule.Decides (rule : Rule σ kind) (start : Tables) : Decision → Prop
  | skip (outcome : Outcome) : Decides rule start (.skip outcome)
  | write {write : SnapshotWrite σ kind} {now : Instant}
    (staged : rule.staged? (rule.stored? start) now = some write) (outcome : Outcome) :
    Decides rule start (.write (Shelf.stage write) outcome)

/-- What a race has come to: nothing was finished, everyone is to write, and the store is as it was;
or a row that the rule may leave was placed. -/
inductive Rule.Course (rule : Rule σ kind) (start : Tables) (consumers : Consumers) : Prop
  | undecided (kept : consumers.world.store = start) (nothing : consumers.answers = [])
    (writes : ∀ pending ∈ consumers.underway, ∀ outcome, pending.decided.decision ≠ .skip outcome)
  | decided {row : σ} {commits : Nat} (leaves : rule.Leaves (Shelf.rows start) row)
    (placed : consumers.world.store =
      Shelf.withRows (placed (Shelf.rows start) row) commits start)

/-- A race of consumers over one event, which began on a store. -/
structure Rule.Racing (rule : Rule σ kind) (start : Tables) (consumers : Consumers) : Prop where
  unset : consumers.world.store.failNextCommit = false
  decides : ∀ pending ∈ consumers.underway, rule.Decides start pending.decided.decision
  answered : ∀ answer ∈ consumers.answers, ∃ outcome, answer = .ok outcome
  course : rule.Course start consumers

theorem Rule.Racing.load (racing : rule.Racing start consumers)
    (governs : rule.Governs policy message)
    (writes : ∀ now, (rule.staged? (rule.stored? start) now).isSome = true)
    (context : MessageContext) : rule.Racing start (consumers.load policy message context) := by
  obtain ⟨unset, decides, answered, course⟩ := racing
  rw [Consumers.load_of_ok (governs.load context consumers.world)]
  cases course with
  | undecided kept nothing writing =>
    -- The rule still finds the store as it was, and stages a write on it.
    obtain ⟨write, staged⟩ := Option.isSome_iff_exists.mp (writes consumers.world.now.time)
    have decided : rule.decide Shelf.stage (rule.stored? consumers.world.store)
        consumers.world.now.time =
          .write (Shelf.stage write) (rule.outcome (rule.stored? start)) := by
      rw [kept, Rule.decide_eq, staged]
    refine ⟨unset, ?_, answered, .undecided kept nothing ?_⟩
    · exact List.forall_mem_append.mpr
        ⟨decides, List.forall_mem_singleton.mpr (decided ▸ .write staged _)⟩
    · exact List.forall_mem_append.mpr
        ⟨writing, List.forall_mem_singleton.mpr (by rw [decided]; rintro _ ⟨⟩)⟩
  | decided leaves placed =>
    -- The row that was placed shows the event.
    have decided : rule.decide Shelf.stage (rule.stored? consumers.world.store)
        consumers.world.now.time = .skip .duplicate := by
      rw [placed, Rule.stored?_placed leaves.owns, Rule.decide_of_shows leaves.shown]
    refine ⟨unset, ?_, answered, .decided leaves placed⟩
    exact List.forall_mem_append.mpr
      ⟨decides, List.forall_mem_singleton.mpr (decided ▸ .skip _)⟩

/-- What was staged when the race began leaves a row that the rule may leave, whatever the race has
come to. -/
theorem Rule.Course.write [Stamped σ] (course : rule.Course start consumers) (lawful : rule.Lawful)
    (repeats : rule.Repeats) {write : SnapshotWrite σ kind} {now : Instant}
    (staged : rule.staged? (rule.stored? start) now = some write) (commits : Nat) :
    ∃ row, rule.Leaves (Shelf.rows start) row ∧
      Shelf.withRows ((write? (Shelf.rows consumers.world.store) write).getD
        (Shelf.rows consumers.world.store)) commits consumers.world.store =
          Shelf.withRows (placed (Shelf.rows start) row) commits start := by
  cases course with
  | undecided kept _ _ =>
    obtain ⟨row, owns, next, shown, taken⟩ := lawful.write_staged staged
    refine ⟨row, ⟨owns, shown, now, next⟩, ?_⟩
    rw [kept, taken, Option.getD_some]
  | @decided row _ leaves placed =>
    rw [placed, Shelf.rows_withRows, Shelf.withRows_withRows]
    rcases leaves.write_again repeats lawful staged with ignored | ⟨last, leaves, taken⟩
    · exact ⟨row, leaves, by rw [ignored, Option.getD_none]⟩
    · exact ⟨last, leaves, by rw [taken, Option.getD_some]⟩

theorem Rule.Racing.finish [Stamped σ] (racing : rule.Racing start consumers)
    (lawful : rule.Lawful) (repeats : rule.Repeats) (place : Nat) :
    rule.Racing start (consumers.finish place) := by
  obtain ⟨unset, decides, answered, course⟩ := racing
  rcases consumers.finish_cases place with
    idle | ⟨⟨⟨targetId, decision⟩, context⟩, member, _, _, underway, finished, fewer, left⟩
  · rw [idle]
    exact ⟨unset, decides, answered, course⟩
  · rw [left]
    have rest : ∀ other ∈ underway, rule.Decides start other.decided.decision :=
      fun other among => decides other (fewer among)
    cases decides _ member with
    | skip outcome =>
      cases (finish_skip targetId outcome).symm.trans finished
      refine ⟨unset, rest, List.forall_mem_append.mpr
        ⟨answered, List.forall_mem_singleton.mpr ⟨outcome, rfl⟩⟩, ?_⟩
      -- Who passes the event over has loaded it late, so that the row is there.
      cases course with
      | undecided _ _ writing => exact absurd rfl (writing _ member outcome)
      | decided leaves placed => exact .decided leaves placed
    | write staged outcome =>
      cases (finish_stage targetId outcome unset).symm.trans finished
      obtain ⟨row, leaves, stored⟩ := course.write lawful repeats staged _
      exact ⟨(Shelf.failNextCommit_withRows ..).trans unset, rest, List.forall_mem_append.mpr
        ⟨answered, List.forall_mem_singleton.mpr ⟨outcome, rfl⟩⟩, .decided leaves stored⟩

theorem Rule.Racing.move [Stamped σ] (racing : rule.Racing start consumers)
    (governs : rule.Governs policy message) (repeats : rule.Repeats)
    (writes : ∀ now, (rule.staged? (rule.stored? start) now).isSome = true) {move : Move}
    (alone : move.Over policy message) : rule.Racing start (consumers.move move) := by
  cases alone with
  | pause clock drawn =>
    have kept := World.pause_store racing.unset clock drawn
    refine ⟨rfl, racing.decides, racing.answered, ?_⟩
    cases racing.course with
    | undecided same nothing writing => exact .undecided (kept.trans same) nothing writing
    | decided leaves placed => exact .decided leaves (kept.trans placed)
  | load context => exact racing.load governs writes context
  | finish place => exact racing.finish governs.lawful repeats place

end Races

/-! ## Events that nobody writes for -/

/-- Whether an event is passed over on a store, at any time. -/
def PassedOver (policy : StalenessPolicy) (message : Message) (start : Tables) : Prop :=
  ∀ (context : MessageContext) (world : World Tables), world.store = start →
    ∃ targetId outcome clock, load (Plan.ofMessage policy message) context world =
      (.ok ⟨targetId, .skip outcome⟩, { world with now := clock })

variable {policy : StalenessPolicy} {message : Message} {start : Tables} {consumers : Consumers}

theorem Rule.Governs.passedOver {σ : Type} {kind : IdKind} [Snapshot σ kind] [Shelf σ]
    {rule : Rule σ kind} (governs : rule.Governs policy message) {now : Instant}
    (nothing : rule.staged? (rule.stored? start) now = none) : PassedOver policy message start := by
  rintro context world rfl
  rw [governs.load context world, (Rule.decide_of_nothing nothing world.now.time).1]
  exact ⟨_, _, _, rfl⟩

/-- Consumers that all pass one event over. -/
structure Idle (start : Tables) (consumers : Consumers) : Prop where
  unset : start.failNextCommit = false
  kept : consumers.world.store = start
  skips : ∀ pending ∈ consumers.underway, ∃ outcome, pending.decided.decision = .skip outcome
  answered : ∀ answer ∈ consumers.answers, ∃ outcome, answer = .ok outcome

theorem Idle.move (idle : Idle start consumers) (passed : PassedOver policy message start)
    {move : Move} (alone : move.Over policy message) : Idle start (consumers.move move) := by
  obtain ⟨unset, kept, skips, answered⟩ := idle
  cases alone with
  | pause clock drawn =>
    exact ⟨unset, (World.pause_store (kept ▸ unset) clock drawn).trans kept, skips, answered⟩
  | load context =>
    obtain ⟨targetId, outcome, clock, loaded⟩ := passed context consumers.world kept
    rw [Consumers.move, Consumers.load_of_ok loaded]
    exact ⟨unset, kept, List.forall_mem_append.mpr
      ⟨skips, List.forall_mem_singleton.mpr ⟨outcome, rfl⟩⟩, answered⟩
  | finish place =>
    rw [Consumers.move]
    rcases consumers.finish_cases place with
      still | ⟨⟨⟨targetId, decision⟩, context⟩, member, _, _, underway, finished, fewer, left⟩
    · rw [still]
      exact ⟨unset, kept, skips, answered⟩
    · obtain ⟨outcome, rfl⟩ := skips _ member
      cases (finish_skip targetId outcome).symm.trans finished
      rw [left]
      exact ⟨unset, kept, fun other among => skips other (fewer among), List.forall_mem_append.mpr
        ⟨answered, List.forall_mem_singleton.mpr ⟨outcome, rfl⟩⟩⟩

/-! ## Once -/

/-- Whether a store holds what it would hold once an event was handled, but for the times of
processing: when snapshots were updated last and, of those that are new, when they were made. How
many commits there were is not part of what a store holds. -/
structure AsOnce (start once after : Tables) : Prop where
  readings : after.readings = once.readings
  alerts : after.alerts = once.alerts
  sensors : SameRows start.sensors once.sensors after.sensors
  owners : SameRows start.owners once.owners after.owners
  outbox : after.outbox = once.outbox
  eventIds : after.eventIds = once.eventIds
  failNextCommit : after.failNextCommit = once.failNextCommit

theorem AsOnce.refl (start once : Tables) : AsOnce start once once :=
  ⟨rfl, rfl, rfl, rfl, rfl, rfl, rfl⟩

/-- Whether consumers that began on a world end as if one event had been handled once, at whatever
time: all that were answered were answered well, and the store holds what it would hold then. -/
structure EndsAsOnce (policy : StalenessPolicy) (message : Message) (world : World Tables)
    (reached : Consumers) : Prop where
  answered : ∀ answer ∈ reached.answers, ∃ outcome, answer = .ok outcome
  stored : ∀ context clock, ∃ outcome once,
    handle policy message context { world with now := clock } = (.ok outcome, once) ∧
      AsOnce world.store once.store reached.world.store

variable {world : World Tables} {moves : List Move}

theorem PassedOver.endsAsOnce (passed : PassedOver policy message world.store)
    (unset : world.store.failNextCommit = false)
    (alone : ∀ move ∈ moves, move.Over policy message) :
    EndsAsOnce policy message world (Consumers.run ⟨world, [], []⟩ moves) := by
  have begun : Idle world.store ⟨world, [], []⟩ := ⟨unset, rfl, by rintro _ ⟨⟩, by rintro _ ⟨⟩⟩
  have idle := Consumers.run_of_move (Idle world.store) begun
    fun _ idle move member => idle.move passed (alone move member)
  refine ⟨idle.answered, fun context clock => ?_⟩
  obtain ⟨targetId, outcome, after, loaded⟩ := passed context { world with now := clock } rfl
  refine ⟨outcome, _, (handle_eq_finish loaded).trans (finish_skip targetId outcome), ?_⟩
  rw [idle.kept]
  exact .refl ..

section Ends

variable {σ : Type} {kind : IdKind} [Snapshot σ kind] [Shelf σ] [Stamped σ] {rule : Rule σ kind}

theorem Rule.Racing.endsAsOnce (racing : rule.Racing world.store consumers)
    (governs : rule.Governs policy message) (repeats : rule.Repeats)
    (writes : ∀ now, (rule.staged? (rule.stored? world.store) now).isSome = true)
    (unset : world.store.failNextCommit = false) (answered : consumers.answers ≠ [])
    (shelved : ∀ {once after : List σ} {commits more : Nat},
      SameRows (Shelf.rows world.store) once after → AsOnce world.store
        (Shelf.withRows once commits world.store) (Shelf.withRows after more world.store)) :
    EndsAsOnce policy message world consumers := by
  refine ⟨racing.answered, fun context clock => ?_⟩
  obtain ⟨result, once, handled, effect⟩ := governs.handle context { world with now := clock }
  cases racing.course with
  | undecided _ nothing _ => exact absurd nothing answered
  | decided leaves placed =>
    rw [placed]
    generalize left : once.store = tables at effect
    cases effect with
    | passed nothing =>
      have something := writes clock.time
      rw [nothing] at something
      cases something
    | refused _ set =>
      rw [unset] at set
      cases set
    | wrote _ _ owns next shown =>
      -- One alone places the same row, but for the times of processing.
      refine ⟨_, once, handled, ?_⟩
      rw [left]
      have first : rule.Leaves (Shelf.rows world.store) _ := ⟨owns, shown, _, next⟩
      exact shelved (sameRows_placed (leaves.owns.trans owns.symm)
        (first.timeless_eq repeats leaves))

theorem Rule.Governs.endsAsOnce (governs : rule.Governs policy message) (repeats : rule.Repeats)
    (unset : world.store.failNextCommit = false) (alone : ∀ move ∈ moves, move.Over policy message)
    (answered : (Consumers.run ⟨world, [], []⟩ moves).answers ≠ [])
    (shelved : ∀ {once after : List σ} {commits more : Nat},
      SameRows (Shelf.rows world.store) once after → AsOnce world.store
        (Shelf.withRows once commits world.store) (Shelf.withRows after more world.store)) :
    EndsAsOnce policy message world (Consumers.run ⟨world, [], []⟩ moves) := by
  cases staged : rule.staged? (rule.stored? world.store) world.now.time with
  | none => exact (governs.passedOver staged).endsAsOnce unset alone
  | some write =>
    have writes (later : Instant) :
        (rule.staged? (rule.stored? world.store) later).isSome = true := by
      rw [← rule.isWrite_outcome, rule.isWrite_outcome _ world.now.time, staged]
      rfl
    have begun : rule.Racing world.store ⟨world, [], []⟩ :=
      ⟨unset, by rintro _ ⟨⟩, by rintro _ ⟨⟩, .undecided rfl rfl (by rintro _ ⟨⟩)⟩
    have racing := Consumers.run_of_move (rule.Racing world.store) begun
      fun _ racing move member => racing.move governs repeats writes (alone move member)
    exact racing.endsAsOnce governs repeats writes unset answered shelved

end Ends

/-- Consumers that all handle one event under one policy, at least one of them, while commits
succeed, end as if it had been handled once when they have all finished: each is answered, and the
store holds what it would hold after that, but for the times of processing. -/
theorem race_ends_as_once (unset : world.store.failNextCommit = false)
    (alone : ∀ move ∈ moves, move.Over policy message) (loaded : 0 < moves.countP Move.isLoad)
    (finished : (Consumers.run ⟨world, [], []⟩ moves).underway = []) :
    (Consumers.run ⟨world, [], []⟩ moves).answers.length = moves.countP Move.isLoad ∧
      EndsAsOnce policy message world (Consumers.run ⟨world, [], []⟩ moves) := by
  have all := Consumers.length_run ⟨world, [], []⟩ moves
  simp only [finished, List.length_nil, Nat.zero_add] at all
  have answered : (Consumers.run ⟨world, [], []⟩ moves).answers ≠ [] := by
    rw [← List.length_pos_iff, all]
    exact loaded
  refine ⟨all, ?_⟩
  rcases ruling_cases policy message with ⟨outcome, -, plan⟩ | ⟨rule, ruling⟩ | ⟨rule, ruling⟩
  · have passed : PassedOver policy message world.store := fun context world _ =>
      ⟨.nil, outcome, world.now, plan ▸ load_done outcome⟩
    exact passed.endsAsOnce unset alone
  · exact ruling.governs.endsAsOnce ruling.repeats unset alone answered
      fun same => ⟨rfl, rfl, same, rfl, rfl, rfl, rfl⟩
  · exact ruling.governs.endsAsOnce ruling.repeats unset alone answered
      fun same => ⟨rfl, rfl, rfl, same, rfl, rfl, rfl⟩

/-! ## A gate -/

/-- The news that a sensor was fitted to a gate. -/
def gateFitted : Message :=
  .sensorRegistered ⟨⟨31⟩, .epoch, ⟨1⟩, ⟨2⟩, ⟨3⟩, ⟨4⟩, some "gate", "North", "Mill", "Active"⟩

/-- Two consumers take the news up, a minute apart, and the second is done first. -/
def gateRace : List Move :=
  [.load .standard gateFitted (.ofMessage gateFitted ⟨9⟩),
    .pause (.still ⟨60, 0, by decide, by decide, by decide⟩) 0 false,
    .load .standard gateFitted (.ofMessage gateFitted ⟨8⟩), .finish 1, .finish 0]

/-- Both consumers answer that they have stored the sensor, and it is stored once. -/
theorem gateRace_ends_as_once :
    (Consumers.run ⟨.atRest .empty, [], []⟩ gateRace).answers = [.ok .created, .ok .created] ∧
      EndsAsOnce .standard gateFitted (.atRest .empty)
        (Consumers.run ⟨.atRest .empty, [], []⟩ gateRace) := by
  have alone : ∀ move ∈ gateRace, move.Over .standard gateFitted := by
    intro move member
    simp only [gateRace, List.mem_cons, List.not_mem_nil, or_false] at member
    rcases member with rfl | rfl | rfl | rfl | rfl
    · exact .load _
    · exact .pause _ _
    · exact .load _
    · exact .finish 1
    · exact .finish 0
  exact ⟨rfl, (race_ends_as_once rfl alone (by decide) rfl).2⟩

end Fieldwatch.Inbox
