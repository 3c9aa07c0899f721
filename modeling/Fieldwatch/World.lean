import Fieldwatch.Counter
import Fieldwatch.Store.Backend

/-!
# The world of a use case

A use case sees a clock, a supply of identifiers, a store and counters. It answers or fails, and
either way leaves a world behind.
-/
namespace Fieldwatch

/-! ## Clocks -/

/-- A clock: what it tells at each reading, and how often it has been read. It may stand still, run
or be set back between two readings. -/
structure Clock where
  tell : Nat → Instant
  reads : Nat

namespace Clock

/-- What the clock tells at the next reading. -/
def time (clock : Clock) : Instant := clock.tell clock.reads

def next (clock : Clock) : Clock := { clock with reads := clock.reads + 1 }

def still (moment : Instant) : Clock := ⟨fun _ => moment, 0⟩

instance : Coe Instant Clock := ⟨still⟩
instance : Coe Clock Instant := ⟨time⟩

end Clock

/-! ## Worlds and tasks -/

/-- What a use case works on. -/
structure World (σ : Type) where
  now : Clock
  ids : IdSource
  store : σ
  counters : Counters

/-- A use case. -/
abbrev Task (σ ε α : Type) := ExceptT ε (StateM (World σ)) α

namespace Task

variable {σ ε α : Type}

def now : Task σ ε Instant := fun world =>
  (.ok world.now.time, { world with now := world.now.next })

def freshId (kind : IdKind) : Task σ ε (Id kind) := fun world =>
  let (id, ids) := world.ids.fresh kind
  (.ok id, { world with ids })

def count (counter : Counter) (times : Nat) : Task σ ε Unit := fun world =>
  (.ok (), { world with counters := world.counters.add counter times })

def access (call : Access σ α) : Task σ StoreError α := fun world =>
  let (result, store) := call world.store
  (result, { world with store })

/-- The task with its errors put another way. -/
def mapError {ε' : Type} (change : ε → ε') (task : Task σ ε α) : Task σ ε' α := fun world =>
  let (result, world) := task world
  (result.mapError change, world)

def ofExcept (result : Except ε α) : Task σ ε α := fun world => (result, world)

/-- Commits a change set and counts the entries that it added to the outbox. -/
def commit [Backend σ] (changes : ChangeSet) : Task σ StoreError CommitReceipt := do
  let receipt ← access (Backend.commit changes)
  count .eventsStaged receipt.outboxEntries
  return receipt

end Task

/-! ## Hosts of a world -/

/-- A larger state that holds a world among other things. -/
class Hosts (τ : Type) (σ : outParam Type) where
  world : τ → World σ
  withWorld : World σ → τ → τ
  world_withWorld : ∀ inner state, world (withWorld inner state) = inner
  withWorld_world : ∀ state, withWorld (world state) state = state
  withWorld_withWorld : ∀ inner other state,
    withWorld inner (withWorld other state) = withWorld inner state

instance {σ : Type} : Hosts (World σ) σ where
  world state := state
  withWorld inner _ := inner
  world_withWorld _ _ := rfl
  withWorld_world _ := rfl
  withWorld_withWorld _ _ _ := rfl

instance {τ σ π : Type} [Hosts τ σ] : Hosts (τ × π) σ where
  world state := Hosts.world state.1
  withWorld inner state := (Hosts.withWorld inner state.1, state.2)
  world_withWorld inner state := Hosts.world_withWorld inner state.1
  withWorld_world state := by simp [Hosts.withWorld_world]
  withWorld_withWorld inner other state := by simp [Hosts.withWorld_withWorld]

namespace Hosts

variable {τ σ ε α : Type} [Hosts τ σ]

/-- Runs a task on the world that a state holds. -/
def run (task : Task σ ε α) : StateM τ (Except ε α) := fun state =>
  let (result, inner) := task (world state)
  (result, withWorld inner state)

/-- Counts something in the world that a state holds. -/
def count (counter : Counter) (times : Nat) (state : τ) : τ :=
  let inner := world state
  withWorld { inner with counters := inner.counters.add counter times } state

end Hosts
end Fieldwatch
