import Fieldwatch.Proofs.Task
import Fieldwatch.Store.Tables

/-!
# What tasks leave alone

A task that only reads leaves the store as it is, and one that is atomic does so when it fails. A
task made of such tasks is such a task again, so that whole use cases are seen to be atomic by the
one commit that they end with.
-/
namespace Fieldwatch

/-- Whether a world has the supply of identifiers of an earlier one, which it may have drawn on. -/
structure World.Follows {σ : Type} (world after : World σ) : Prop where
  draw : after.ids.draw = world.ids.draw
  used : world.ids.used ≤ after.ids.used

namespace World.Follows

variable {σ : Type} {world middle after : World σ}

theorem refl (world : World σ) : world.Follows world := ⟨rfl, Nat.le_refl _⟩

theorem trans (first : world.Follows middle) (second : middle.Follows after) :
    world.Follows after :=
  ⟨second.draw.trans first.draw, Nat.le_trans first.used second.used⟩

end World.Follows

/-- Whether a store holds what an earlier one held. Whether the next commit is set to fail is not
part of what a store holds. -/
def Tables.HoldsAs (after tables : Tables) : Prop :=
  after = { tables with failNextCommit := after.failNextCommit }

namespace Tables.HoldsAs

variable {tables after : Tables}

theorem refl (tables : Tables) : tables.HoldsAs tables := rfl

variable (holds : after.HoldsAs tables)

include holds

theorem readings : after.readings = tables.readings := by
  rw [show after = _ from holds]

theorem alerts : after.alerts = tables.alerts := by
  rw [show after = _ from holds]

theorem outbox : after.outbox = tables.outbox := by
  rw [show after = _ from holds]

theorem eventIds : after.eventIds = tables.eventIds := by
  rw [show after = _ from holds]

end Tables.HoldsAs

/-- A world after a pause in which the clock is set, others draw identifiers, and the next commit is
set to fail or not. -/
def World.pause (world : World Tables) (clock : Clock) (drawn : Nat) (failing : Bool) :
    World Tables :=
  { world with
    now := clock
    ids := { world.ids with used := world.ids.used + drawn }
    store := { world.store with failNextCommit := failing } }

theorem World.pause_follows (world : World Tables) (clock : Clock) (drawn : Nat)
    (failing : Bool) : world.Follows (world.pause clock drawn failing) :=
  ⟨rfl, Nat.le_add_right _ _⟩

theorem World.pause_holdsAs (world : World Tables) (clock : Clock) (drawn : Nat)
    (failing : Bool) : (world.pause clock drawn failing).store.HoldsAs world.store := rfl

/-- A pause after which commits succeed leaves a store in which they did as it is. -/
theorem World.pause_store {world : World Tables} (unset : world.store.failNextCommit = false)
    (clock : Clock) (drawn : Nat) : (world.pause clock drawn false).store = world.store := by
  rw [World.pause, ← unset]

namespace Task

/-! ## Tasks that read -/

section Reading

variable {σ ε ε' α β : Type}

/-- Whether a task leaves the store as it is, whatever it answers. -/
def ReadsOnly (task : Task σ ε α) : Prop :=
  ∀ world, world.Follows (task world).2 ∧ (task world).2.store = world.store

namespace ReadsOnly

theorem pure (value : α) : ReadsOnly (Pure.pure value : Task σ ε α) :=
  fun world => ⟨.refl world, rfl⟩

theorem throw (error : ε) : ReadsOnly (throw error : Task σ ε α) :=
  fun world => ⟨.refl world, rfl⟩

theorem now : ReadsOnly (Task.now : Task σ ε Instant) :=
  fun _ => ⟨⟨rfl, Nat.le_refl _⟩, rfl⟩

theorem freshId (kind : IdKind) : ReadsOnly (Task.freshId kind : Task σ ε (Id kind)) :=
  fun _ => ⟨⟨rfl, Nat.le_succ _⟩, rfl⟩

theorem count (counter : Counter) (times : Nat) :
    ReadsOnly (Task.count counter times : Task σ ε Unit) :=
  fun _ => ⟨⟨rfl, Nat.le_refl _⟩, rfl⟩

theorem ofExcept (result : Except ε α) : ReadsOnly (Task.ofExcept result : Task σ ε α) :=
  fun world => ⟨.refl world, rfl⟩

theorem access {call : Access σ α} (reads : ∀ store, (call store).2 = store) :
    ReadsOnly (Task.access call) := by
  intro world
  rw [access_apply]
  exact ⟨⟨rfl, Nat.le_refl _⟩, reads world.store⟩

theorem mapError {task : Task σ ε α} (reads : ReadsOnly task) (change : ε → ε') :
    ReadsOnly (task.mapError change) :=
  reads

theorem bind {task : Task σ ε α} {next : α → Task σ ε β} (first : ReadsOnly task)
    (rest : ∀ value, ReadsOnly (next value)) : ReadsOnly (task >>= next) := by
  intro world
  have first := first world
  rw [bind_apply]
  generalize task world = answer at first
  obtain ⟨result, middle⟩ := answer
  obtain ⟨follows, kept⟩ := first
  cases result with
  | error error => exact ⟨follows, kept⟩
  | ok value =>
    obtain ⟨goesOn, keeps⟩ := rest value middle
    exact ⟨follows.trans goesOn, keeps.trans kept⟩

theorem foldlM {step : β → α → Task σ ε β} (steps : ∀ value item, ReadsOnly (step value item))
    (value : β) (items : List α) : ReadsOnly (items.foldlM step value) := by
  induction items generalizing value with
  | nil => exact pure value
  | cons item rest ih => exact (steps value item).bind ih

/-- What a task that only reads leaves when it answers. -/
theorem of_eq {task : Task σ ε α} {world after : World σ} {result : Except ε α}
    (reads : ReadsOnly task) (answered : task world = (result, after)) :
    world.Follows after ∧ after.store = world.store := by
  have kept := reads world
  rw [answered] at kept
  exact kept

end ReadsOnly

/-- Whether a task does nothing to a world but read its clock and draw on its supply, and goes by
nothing else in it. -/
def Looks (task : Task σ ε α) : Prop :=
  ∀ now ids, ∃ result reads used, ids.used ≤ used ∧ ∀ store counters,
    task ⟨now, ids, store, counters⟩ =
      (result, ⟨{ now with reads }, { ids with used }, store, counters⟩)

namespace Looks

theorem of_same {task : Task σ ε α} (result : Except ε α)
    (same : ∀ world, task world = (result, world)) : Looks task :=
  fun now ids => ⟨result, now.reads, ids.used, Nat.le_refl _, fun _ _ => same _⟩

theorem pure (value : α) : Looks (Pure.pure value : Task σ ε α) :=
  of_same (.ok value) fun _ => rfl

theorem throw (error : ε) : Looks (throw error : Task σ ε α) :=
  of_same (.error error) fun _ => rfl

theorem ofExcept (result : Except ε α) : Looks (Task.ofExcept result : Task σ ε α) :=
  of_same result fun _ => rfl

theorem now : Looks (Task.now : Task σ ε Instant) :=
  fun now ids => ⟨.ok now.time, now.reads + 1, ids.used, Nat.le_refl _, fun _ _ => rfl⟩

theorem freshId (kind : IdKind) : Looks (Task.freshId kind : Task σ ε (Id kind)) :=
  fun now ids => ⟨.ok (ids.peek 0 kind), now.reads, ids.used + 1, Nat.le_succ _, fun _ _ => rfl⟩

theorem mapError {task : Task σ ε α} (looks : Looks task) (change : ε → ε') :
    Looks (task.mapError change) := by
  intro now ids
  obtain ⟨result, reads, used, up, left⟩ := looks now ids
  refine ⟨result.mapError change, reads, used, up, fun store counters => ?_⟩
  rw [mapError_apply, left]

theorem bind {task : Task σ ε α} {next : α → Task σ ε β} (first : Looks task)
    (rest : ∀ value, Looks (next value)) : Looks (task >>= next) := by
  intro now ids
  obtain ⟨result, reads, used, up, left⟩ := first now ids
  cases result with
  | error error =>
    exact ⟨.error error, reads, used, up, fun store counters => bind_of_error (left _ _)⟩
  | ok value =>
    obtain ⟨result, readsToo, usedToo, upToo, leftToo⟩ :=
      rest value { now with reads } { ids with used }
    refine ⟨result, readsToo, usedToo, Nat.le_trans up upToo, fun store counters => ?_⟩
    rw [bind_of_ok (left _ _), leftToo]

theorem foldlM {step : β → α → Task σ ε β} (steps : ∀ value item, Looks (step value item))
    (value : β) (items : List α) : Looks (items.foldlM step value) := by
  induction items generalizing value with
  | nil => exact pure value
  | cons item rest ih => exact (steps value item).bind ih

theorem mapM {step : α → Task σ ε β} (steps : ∀ item, Looks (step item)) (items : List α) :
    Looks (items.mapM step) := by
  induction items with
  | nil => exact pure []
  | cons item rest ih =>
    rw [List.mapM_cons]
    exact (steps item).bind fun value => ih.bind fun values => pure (value :: values)

theorem readsOnly {task : Task σ ε α} (looks : Looks task) : ReadsOnly task := by
  rintro ⟨now, ids, store, counters⟩
  obtain ⟨result, reads, used, up, left⟩ := looks now ids
  rw [left]
  exact ⟨⟨rfl, up⟩, rfl⟩

section Elsewhere

variable {task : Task σ ε α} {world after : World σ} {result : Except ε α}

/-- What was counted before is left as it is. -/
theorem counters_eq (looks : Looks task) (answered : task world = (result, after)) :
    after.counters = world.counters := by
  obtain ⟨now, ids, store, counters⟩ := world
  obtain ⟨_, reads, used, -, left⟩ := looks now ids
  cases (left store counters).symm.trans answered
  rfl

/-- The answer is the same with another store and other counts. -/
theorem elsewhere (looks : Looks task) (answered : task world = (result, after)) (store : σ)
    (counters : Counters) :
    task { world with store, counters } = (result, { after with store, counters }) := by
  obtain ⟨now, ids, _, _⟩ := world
  obtain ⟨_, reads, used, -, left⟩ := looks now ids
  cases (left _ _).symm.trans answered
  exact left store counters

end Elsewhere

end Looks

/-! ## Ways to fail -/

/-- Whether every error of a task is of some kind. -/
def FailsWith (task : Task σ ε α) (kind : ε → Prop) : Prop :=
  ∀ world error, (task world).1 = .error error → kind error

namespace FailsWith

variable {kind : ε → Prop}

theorem pure (value : α) : FailsWith (Pure.pure value : Task σ ε α) kind := by
  rintro world error ⟨⟩

theorem throw {error : ε} (of : kind error) : FailsWith (throw error : Task σ ε α) kind := by
  rintro world _ ⟨⟩
  exact of

theorem now : FailsWith (Task.now : Task σ ε Instant) kind := by
  rintro world error ⟨⟩

theorem freshId (name : IdKind) : FailsWith (Task.freshId name : Task σ ε (Id name)) kind := by
  rintro world error ⟨⟩

theorem mapError {change : ε' → ε} (of : ∀ error, kind (change error)) (task : Task σ ε' α) :
    FailsWith (task.mapError change) kind := by
  intro world error failed
  rw [mapError_apply] at failed
  cases answered : (task world).1 with
  | ok value =>
    rw [answered] at failed
    cases failed
  | error cause =>
    rw [answered] at failed
    cases failed
    exact of cause

theorem ofExcept {change : ε' → ε} (of : ∀ error, kind (change error)) (result : Except ε' α) :
    FailsWith (Task.ofExcept (result.mapError change) : Task σ ε α) kind :=
  mapError of (Task.ofExcept result)

theorem mono {task : Task σ ε α} {wider : ε → Prop} (fails : FailsWith task kind)
    (wide : ∀ error, kind error → wider error) : FailsWith task wider :=
  fun world error failed => wide error (fails world error failed)

theorem bind {task : Task σ ε α} {next : α → Task σ ε β} (first : FailsWith task kind)
    (rest : ∀ value, FailsWith (next value) kind) : FailsWith (task >>= next) kind := by
  intro world error failed
  rw [bind_apply] at failed
  rcases answered : task world with ⟨_ | value, middle⟩
  · rw [answered] at failed
    cases failed
    exact first world error (congrArg Prod.fst answered)
  · rw [answered] at failed
    exact rest value middle error failed

theorem foldlM {step : β → α → Task σ ε β} (steps : ∀ value item, FailsWith (step value item) kind)
    (value : β) (items : List α) : FailsWith (items.foldlM step value) kind := by
  induction items generalizing value with
  | nil => exact pure value
  | cons item rest ih => exact (steps value item).bind ih

end FailsWith
end Reading

/-! ## Tasks that write at once or not at all -/

variable {ε ε' α β : Type}

/-- Whether a task leaves what the store holds as it is when it fails. -/
def Atomic (task : Task Tables ε α) : Prop :=
  ∀ world, world.Follows (task world).2 ∧
    ∀ error, (task world).1 = .error error → (task world).2.store.HoldsAs world.store

namespace Atomic

theorem of_readsOnly {task : Task Tables ε α} (reads : ReadsOnly task) : Atomic task := by
  intro world
  obtain ⟨follows, kept⟩ := reads world
  refine ⟨follows, fun _ _ => ?_⟩
  rw [kept]
  exact .refl world.store

theorem mapError {task : Task Tables ε α} (atomic : Atomic task) (change : ε → ε') :
    Atomic (task.mapError change) := by
  intro world
  obtain ⟨follows, holds⟩ := atomic world
  refine ⟨follows, fun error failed => ?_⟩
  rw [mapError_apply] at failed ⊢
  cases result : (task world).1 with
  | ok value =>
    rw [result] at failed
    cases failed
  | error cause => exact holds cause result

/-- A task that only reads may come before an atomic one. -/
theorem bind_of_readsOnly {task : Task Tables ε α} {next : α → Task Tables ε β}
    (first : ReadsOnly task) (rest : ∀ value, Atomic (next value)) : Atomic (task >>= next) := by
  intro world
  have first := first world
  rw [bind_apply]
  generalize task world = answer at first
  obtain ⟨result, middle⟩ := answer
  obtain ⟨follows, kept⟩ := first
  rw [← kept]
  cases result with
  | error error => exact ⟨follows, fun _ _ => .refl middle.store⟩
  | ok value =>
    obtain ⟨goesOn, holds⟩ := rest value middle
    exact ⟨follows.trans goesOn, holds⟩

/-- A task that only reads and does not fail may come after an atomic one. -/
theorem bind_of_answers {task : Task Tables ε α} {next : α → Task Tables ε β}
    (first : Atomic task) (rest : ∀ value, ReadsOnly (next value))
    (answers : ∀ value world error, ((next value) world).1 ≠ .error error) :
    Atomic (task >>= next) := by
  intro world
  have first := first world
  rw [bind_apply]
  generalize task world = answer at first
  obtain ⟨result, middle⟩ := answer
  obtain ⟨follows, holds⟩ := first
  cases result with
  | error error => exact ⟨follows, fun _ _ => holds error rfl⟩
  | ok value =>
    refine ⟨follows.trans (rest value middle).1, fun error failed => ?_⟩
    exact absurd failed (answers value middle error)

/-- A commit leaves what the store holds as it is when it fails. -/
theorem commit (changes : ChangeSet) : Atomic (Task.commit changes : Task Tables StoreError _) := by
  intro world
  rcases committed : Backend.commit changes world.store with ⟨result, store⟩
  cases result with
  | ok receipt =>
    rw [commit_of_ok committed]
    exact ⟨⟨rfl, Nat.le_refl _⟩, by rintro _ ⟨⟩⟩
  | error error =>
    rw [commit_of_error committed]
    refine ⟨⟨rfl, Nat.le_refl _⟩, fun _ _ => ?_⟩
    change world.store.commit changes = _ at committed
    unfold Tables.commit at committed
    split at committed
    · cases committed
      rfl
    · split at committed
      · cases committed
        rfl
      · cases committed

end Atomic
end Task
end Fieldwatch
