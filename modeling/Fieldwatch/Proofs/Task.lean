import Fieldwatch.World

/-!
# Running tasks

What a task answers on a world and the world that it leaves. A task in two parts runs the second
only when the first answers, on the world that the first left; nothing but a store call touches the
store, nothing but drawing an identifier the supply of identifiers, and nothing but reading it the
clock.
-/
namespace Fieldwatch

/-- A world around a store, in which the clock stands still and the identifiers count up. -/
def World.atRest {σ : Type} (store : σ) : World σ :=
  ⟨.still .epoch, ⟨fun count => BitVec.ofNat 128 count, 0⟩, store, {}⟩

namespace Task

variable {σ ε ε' α β : Type}

@[simp] theorem pure_apply (value : α) (world : World σ) :
    (pure value : Task σ ε α) world = (.ok value, world) := rfl

@[simp] theorem throw_apply (error : ε) (world : World σ) :
    (throw error : Task σ ε α) world = (.error error, world) := rfl

theorem bind_apply (task : Task σ ε α) (next : α → Task σ ε β) (world : World σ) :
    (task >>= next) world =
      match task world with
      | (.ok value, after) => next value after
      | (.error error, after) => (.error error, after) := by
  change (ExceptT.bindCont next (task world).1) (task world).2 = _
  rcases task world with ⟨result, after⟩
  cases result <;> rfl

/-- A task whose first part answers goes on with the second. -/
theorem bind_of_ok {task : Task σ ε α} {next : α → Task σ ε β} {world after : World σ} {value : α}
    (first : task world = (.ok value, after)) : (task >>= next) world = next value after := by
  rw [bind_apply, first]

/-- A task whose first part fails, fails. -/
theorem bind_of_error {task : Task σ ε α} {next : α → Task σ ε β} {world after : World σ}
    {error : ε} (first : task world = (.error error, after)) :
    (task >>= next) world = (.error error, after) := by
  rw [bind_apply, first]

/-- A task in two parts answers exactly when both do. -/
theorem bind_eq_ok {task : Task σ ε α} {next : α → Task σ ε β} {world after : World σ} {value : β} :
    (task >>= next) world = (.ok value, after) ↔
      ∃ first middle, task world = (.ok first, middle) ∧
        next first middle = (.ok value, after) := by
  rw [bind_apply]
  rcases task world with ⟨result, middle⟩
  cases result with
  | ok first =>
    constructor
    · intro second; exact ⟨first, middle, rfl, second⟩
    · rintro ⟨_, _, same, second⟩; cases same; exact second
  | error error =>
    constructor
    · intro same; cases same
    · rintro ⟨_, _, same, _⟩; cases same

@[simp] theorem now_apply (world : World σ) :
    (Task.now : Task σ ε Instant) world =
      (.ok world.now.time, { world with now := world.now.next }) := rfl

@[simp] theorem ofExcept_apply (result : Except ε α) (world : World σ) :
    (ofExcept result : Task σ ε α) world = (result, world) := rfl

@[simp] theorem mapError_apply (task : Task σ ε α) (change : ε → ε') (world : World σ) :
    task.mapError change world = ((task world).1.mapError change, (task world).2) := rfl

/-- Putting errors another way does not change when a task answers. -/
theorem mapError_eq_ok {task : Task σ ε α} {change : ε → ε'} {world after : World σ} {value : α} :
    task.mapError change world = (.ok value, after) ↔ task world = (.ok value, after) := by
  rw [mapError_apply]
  rcases task world with ⟨result, middle⟩
  cases result with
  | ok first => constructor <;> · intro same; cases same; rfl
  | error error => constructor <;> · intro same; cases same

/-- A pure step answers with its result, whatever its errors are called. -/
theorem ofExcept_mapError_eq_ok {result : Except ε α} {change : ε → ε'} {world after : World σ}
    {value : α} :
    (ofExcept (result.mapError change) : Task σ ε' α) world = (.ok value, after) ↔
      result = .ok value ∧ world = after := by
  rw [ofExcept_apply]
  cases result with
  | ok first =>
    constructor
    · intro same; cases same; exact ⟨rfl, rfl⟩
    · rintro ⟨same, rfl⟩; cases same; rfl
  | error error =>
    constructor
    · intro same; cases same
    · rintro ⟨same, _⟩; cases same

@[simp] theorem freshId_apply (kind : IdKind) (world : World σ) :
    (freshId kind : Task σ ε (Id kind)) world =
      (.ok (world.ids.peek 0 kind),
        { world with ids := { world.ids with used := world.ids.used + 1 } }) := rfl

@[simp] theorem count_apply (counter : Counter) (times : Nat) (world : World σ) :
    (count counter times : Task σ ε Unit) world =
      (.ok (), { world with counters := world.counters.add counter times }) := rfl

@[simp] theorem access_apply (call : Access σ α) (world : World σ) :
    access call world = ((call world.store).1, { world with store := (call world.store).2 }) := rfl

/-- A commit that the store takes counts the entries it added. -/
theorem commit_of_ok [Backend σ] {changes : ChangeSet} {world : World σ} {receipt : CommitReceipt}
    {store : σ} (taken : Backend.commit changes world.store = (.ok receipt, store)) :
    Task.commit changes world =
      (.ok receipt, { world with
        store, counters := world.counters.add .eventsStaged receipt.outboxEntries }) := by
  unfold Task.commit
  rw [bind_of_ok (by rw [access_apply, taken])]
  rfl

/-- A commit that the store refuses leaves what the store left. -/
theorem commit_of_error [Backend σ] {changes : ChangeSet} {world : World σ} {error : StoreError}
    {store : σ} (refused : Backend.commit changes world.store = (.error error, store)) :
    Task.commit changes world = (.error error, { world with store }) := by
  unfold Task.commit
  rw [bind_of_error (by rw [access_apply, refused])]

/-- A commit answers when the store takes it, and draws nothing. -/
theorem commit_eq_ok [Backend σ] {changes : ChangeSet} {world after : World σ}
    {receipt : CommitReceipt} (answered : Task.commit changes world = (.ok receipt, after)) :
    Backend.commit changes world.store = (.ok receipt, after.store) ∧ after.ids = world.ids := by
  rcases committed : Backend.commit changes world.store with ⟨result, store⟩
  cases result with
  | ok first =>
    rw [commit_of_ok committed] at answered
    cases answered
    exact ⟨rfl, rfl⟩
  | error error =>
    rw [commit_of_error committed] at answered
    cases answered

end Task
end Fieldwatch
