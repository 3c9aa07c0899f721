import Fieldwatch.Id
import Fieldwatch.Time.Instant

/-!
# Tracked state

State that changes only by events. A tracked state remembers the version it was last stored at and
the events recorded since, oldest first; storing it moves the version on by their number.
-/
namespace Fieldwatch

/-- State that is made by applying events to an empty beginning. -/
class EventSourced (σ : Type) (ε : outParam Type) where
  /-- The state before any event. -/
  empty : σ
  /-- The state after an event. -/
  apply : σ → ε → σ

/-- A state with its stored version and the events recorded since. -/
structure Tracked (σ ε : Type) where
  state : σ
  version : Int
  pending : List ε

namespace Tracked

variable {σ ε : Type}

/-- A state that was never stored. -/
def new [EventSourced σ ε] : Tracked σ ε := ⟨EventSourced.empty, 0, []⟩

/-- A state as it was stored at a version. -/
def stored (state : σ) (version : Int) : Tracked σ ε := ⟨state, version, []⟩

/-- Applies an event and keeps it for the next commit. -/
def record [EventSourced σ ε] (tracked : Tracked σ ε) (event : ε) : Tracked σ ε :=
  { tracked with
    state := EventSourced.apply tracked.state event
    pending := tracked.pending ++ [event] }

/-- The version after the pending events are stored. -/
def pendingVersion (tracked : Tracked σ ε) : Int :=
  tracked.version + tracked.pending.length

def hasPending (tracked : Tracked σ ε) : Bool :=
  !tracked.pending.isEmpty

/-- The state once its pending events are stored. -/
def committed (tracked : Tracked σ ε) : Tracked σ ε :=
  { tracked with version := tracked.pendingVersion, pending := [] }

def replay [EventSourced σ ε] (state : σ) (events : List ε) : σ :=
  events.foldl EventSourced.apply state

theorem pendingVersion_record [EventSourced σ ε] (tracked : Tracked σ ε) (event : ε) :
    (tracked.record event).pendingVersion = tracked.pendingVersion + 1 := by
  simp [record, pendingVersion]
  omega

theorem committed_committed (tracked : Tracked σ ε) :
    tracked.committed.committed = tracked.committed := by
  simp [committed, pendingVersion]

end Tracked
end Fieldwatch
