import Fieldwatch.Inbox.Handling
import Fieldwatch.Proofs.Store.Rows
import Fieldwatch.Proofs.Task

/-!
# The steps of handling

What the two steps of handling an event answer over the store in memory: the first reads a row and
the clock, the second commits what was decided or leaves everything alone. Sensors and owners are
read and written in the same way, each in a table of their own; `Shelf` says what the two tables
have in common.
-/
namespace Fieldwatch.Inbox

open Tables (find? write?)

variable {context : MessageContext} {world after : World Tables}

theorem load_done (outcome : Outcome) :
    load (.done outcome) context world = (.ok ⟨.nil, .skip outcome⟩, world) := rfl

/-- A sensor is decided on as it is stored, inactive or not. -/
theorem load_onSensor (id : SensorId) (decide : Option SensorSnapshot → Instant → Decision) :
    load (.onSensor id decide) context world =
      (.ok ⟨id.cast .entity, decide (find? world.store.sensors id) world.now.time⟩,
        { world with now := world.now.next }) := by
  have read : failing context (id.cast .entity)
      (.access (Backend.getSensor id .includeInactive)) world =
        (.ok (find? world.store.sensors id), world) := by
    change ((Except.ok ((find? world.store.sensors id).filter fun _ => true)).mapError _, world) = _
    cases find? world.store.sensors id <;> rfl
  rw [load, Task.bind_of_ok read]
  rfl

/-- An owner is decided on as it is stored, inactive or not. -/
theorem load_onOwner (id : OwnerId) (decide : Option OwnerSnapshot → Instant → Decision) :
    load (.onOwner id decide) context world =
      (.ok ⟨id.cast .entity, decide (find? world.store.owners id) world.now.time⟩,
        { world with now := world.now.next }) := by
  have read : failing context (id.cast .entity)
      (.access (Backend.getOwner id .includeInactive)) world =
        (.ok (find? world.store.owners id), world) := by
    change ((Except.ok ((find? world.store.owners id).filter fun _ => true)).mapError _, world) = _
    cases find? world.store.owners id <;> rfl
  rw [load, Task.bind_of_ok read]
  rfl

/-- The store is always there to be read: an event is loaded, and only the clock goes on. -/
theorem load_answers (plan : Plan) (context : MessageContext) (world : World Tables) :
    ∃ decided clock, load plan context world = (.ok decided, { world with now := clock }) := by
  cases plan with
  | done outcome => exact ⟨_, world.now, load_done outcome⟩
  | onSensor id decide => exact ⟨_, _, load_onSensor id decide⟩
  | onOwner id decide => exact ⟨_, _, load_onOwner id decide⟩

theorem finish_skip (targetId : EntityId) (outcome : Outcome) :
    finish ⟨targetId, .skip outcome⟩ context world = (.ok outcome, world) := rfl

/-- A decision to write whose commit was set to fail is told as the failure of its context, and the
switch is cleared. -/
theorem finish_of_failNext (targetId : EntityId) (changes : ChangeSet) (outcome : Outcome)
    (set : world.store.failNextCommit = true) :
    finish ⟨targetId, .write changes outcome⟩ context world =
      (.error ⟨context, targetId, .unavailable "injected commit failure"⟩,
        { world with store := { world.store with failNextCommit := false } }) := by
  refine Task.bind_of_error ?_
  rw [failing, Task.mapError_apply, Task.commit_of_error (Tables.commit_of_failNext changes set)]
  rfl

/-- Handling is what was decided, and then finished. -/
theorem handle_eq_finish {policy : StalenessPolicy} {message : Message} {decided : Decided}
    (loaded : load (Plan.ofMessage policy message) context world = (.ok decided, after)) :
    handle policy message context world = finish decided context after :=
  Task.bind_of_ok loaded

/-- A message that is passed over is answered and leaves the store as it is. -/
theorem handle_of_done {policy : StalenessPolicy} {message : Message} {outcome : Outcome}
    (plan : Plan.ofMessage policy message = .done outcome) (context : MessageContext)
    (world : World Tables) : handle policy message context world = (.ok outcome, world) := by
  rw [handle_eq_finish (plan ▸ load_done outcome), finish_skip]

/-! ## The tables of snapshots -/

/-- Where the snapshots of one kind are kept: the rows of their table, a store with other rows and
another count of commits, how a write is staged, and the plan that decides on one row. -/
class Shelf (σ : Type) {kind : outParam IdKind} [Snapshot σ kind] where
  rows : Tables → List σ
  withRows : List σ → Nat → Tables → Tables
  stage : SnapshotWrite σ kind → ChangeSet
  plan : Id kind → (Option σ → Instant → Decision) → Plan
  rows_withRows : ∀ left commits tables, rows (withRows left commits tables) = left
  withRows_withRows : ∀ left commits others more tables,
    withRows left commits (withRows others more tables) = withRows left commits tables
  withRows_rows : ∀ tables, withRows (rows tables) tables.commits tables = tables
  commits_withRows : ∀ left commits tables, (withRows left commits tables).commits = commits
  failNextCommit_withRows : ∀ left commits tables,
    (withRows left commits tables).failNextCommit = tables.failNextCommit
  commit_stage : ∀ {tables write}, tables.failNextCommit = false → tables.commit (stage write) =
    (.ok ⟨if (write? (rows tables) write).isSome then 1 else 0, 0⟩,
      withRows ((write? (rows tables) write).getD (rows tables)) (tables.commits + 1) tables)
  load_plan : ∀ id decide context world, load (plan id decide) context world =
    (.ok ⟨id.cast .entity, decide (find? (rows world.store) id) world.now.time⟩,
      { world with now := world.now.next })

instance : Shelf SensorSnapshot where
  rows := Tables.sensors
  withRows sensors commits tables := { tables with sensors, commits }
  stage := ChangeSet.empty.writeSensor
  plan := .onSensor
  rows_withRows _ _ _ := rfl
  withRows_withRows _ _ _ _ _ := rfl
  withRows_rows _ := rfl
  commits_withRows _ _ _ := rfl
  failNextCommit_withRows _ _ _ := rfl
  commit_stage := Tables.commit_writeSensor _
  load_plan id decide _ _ := load_onSensor id decide

instance : Shelf OwnerSnapshot where
  rows := Tables.owners
  withRows owners commits tables := { tables with owners, commits }
  stage := ChangeSet.empty.writeOwner
  plan := .onOwner
  rows_withRows _ _ _ := rfl
  withRows_withRows _ _ _ _ _ := rfl
  withRows_rows _ := rfl
  commits_withRows _ _ _ := rfl
  failNextCommit_withRows _ _ _ := rfl
  commit_stage := Tables.commit_writeOwner _
  load_plan id decide _ _ := load_onOwner id decide

attribute [simp] Shelf.rows_withRows Shelf.withRows_withRows Shelf.withRows_rows
  Shelf.commits_withRows Shelf.failNextCommit_withRows

variable {σ : Type} {kind : IdKind} [Snapshot σ kind] [Shelf σ]

/-- A staged write whose commit succeeds answers, and leaves the rows as the write makes them. -/
theorem finish_stage (targetId : EntityId) (outcome : Outcome) {write : SnapshotWrite σ kind}
    (unset : world.store.failNextCommit = false) :
    finish ⟨targetId, .write (Shelf.stage write) outcome⟩ context world =
      (.ok outcome, { world with
        store := Shelf.withRows
          ((write? (Shelf.rows world.store) write).getD (Shelf.rows world.store))
          (world.store.commits + 1) world.store
        counters := world.counters.add .eventsStaged 0 }) := by
  have taken : Backend.commit (Shelf.stage write) world.store = _ := Shelf.commit_stage unset
  exact Task.bind_of_ok (Task.mapError_eq_ok.mpr (Task.commit_of_ok taken))

end Fieldwatch.Inbox
