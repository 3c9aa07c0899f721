import Fieldwatch.Inbox.Handling
import Fieldwatch.Pipeline.Loop
import Fieldwatch.Settings.Basic

/-!
# The pipeline

A broker, what its subscribers share, and the relay loop that runs beside the caller. Whenever the
caller waits, the loop does what is due before the wait is over; at the very end of a wait the
caller goes first. Stopping the pipeline lets a pass that was begun come to its end, then closes the
broker.
-/
namespace Fieldwatch

/-- A broker with the relay loop beside it. -/
structure Pipeline (ι ω : Type) where
  broker : Broker ι
  /-- What the subscribers share. -/
  shared : ω
  plan : LoopPlan
  loop : RelayLoop ι
  /-- The milliseconds since the start. -/
  clock : Nat

instance {ι ω : Type} : Carries (Pipeline ι ω) ι ω where
  carried pipeline := (pipeline.broker, pipeline.shared)
  withCarried inner pipeline := { pipeline with broker := inner.1, shared := inner.2 }

instance {ι ω σ : Type} [Hosts ω σ] : Hosts (Pipeline ι ω) σ where
  world pipeline := Hosts.world pipeline.shared
  withWorld inner pipeline := { pipeline with shared := Hosts.withWorld inner pipeline.shared }
  world_withWorld inner pipeline := Hosts.world_withWorld inner pipeline.shared
  withWorld_world pipeline := by simp [Hosts.withWorld_world]
  withWorld_withWorld inner other pipeline := by simp [Hosts.withWorld_withWorld]

namespace Pipeline

variable {ι ω σ : Type} [Backend σ] [Hosts ω σ]

/-- How the relay loop runs with settings. -/
def planOf (settings : Settings) : LoopPlan where
  relay := {
    maxAttempts := settings.maxDeliveryAttempts
    retention := some (settings.retentionSeconds.toNat * 1000000000) }
  period := settings.pollMillis.toNat
  batch := settings.batchSize

/-- A pipeline that was just started with settings: the inbox is subscribed, and the loop has not
begun. -/
def start (shared : ω) (settings : Settings) (inbox : ι) : Pipeline ι ω where
  broker := Broker.subscribe {
    policy := {
      maxAttempts := settings.maxDeliveryAttempts
      backoffMillis := settings.retryBackoffMillis.toNat } } Inbox.eventTypes inbox
  shared := shared
  plan := planOf settings
  loop := .starting
  clock := 0

/-- Lets the loop do at a time what is due then. -/
def stepAt (handle : Broker.Handler ι ω) (time : Nat) (pipeline : Pipeline ι ω) : Pipeline ι ω :=
  let (loop, broker, shared) :=
    pipeline.loop.step handle pipeline.plan time (pipeline.broker, pipeline.shared)
  { pipeline with broker, shared, loop, clock := time }

/-- Lets the loop do all that is due before a time, in at most a number of steps. -/
def runBefore (handle : Broker.Handler ι ω) (deadline : Nat) :
    Nat → Pipeline ι ω → Pipeline ι ω
  | 0, pipeline => pipeline
  | steps + 1, pipeline =>
    match pipeline.loop.next? pipeline.plan pipeline.clock with
    | some time =>
      if time < deadline then runBefore handle deadline steps (pipeline.stepAt handle time)
      else pipeline
    | none => pipeline

/-- More steps than the loop can take in a number of milliseconds: in each of them it polls, prunes
and delivers again at most once. -/
def stepsWithin (millis : Nat) : Nat := 4 * millis + 16

/-- Waits for a number of milliseconds while the loop runs. -/
def wait (handle : Broker.Handler ι ω) (millis : Nat) : StateM (Pipeline ι ω) Unit :=
  modify fun pipeline =>
    let deadline := pipeline.clock + millis
    { runBefore handle deadline (stepsWithin millis) pipeline with clock := deadline }

/-- Publishes an envelope while the loop runs. -/
def publish (handle : Broker.Handler ι ω) (envelope : Envelope) :
    StateM (Pipeline ι ω) (Except BrokerError Unit) :=
  Broker.publish handle (wait handle) envelope

/-- Lets a pass that was begun come to its end, in at most a number of steps. -/
def endPass (handle : Broker.Handler ι ω) : Nat → Pipeline ι ω → Pipeline ι ω
  | 0, pipeline => pipeline
  | steps + 1, pipeline =>
    match pipeline.loop with
    | .delivering pass _ =>
      endPass handle steps (pipeline.stepAt handle (max pipeline.clock pass.wake))
    | _ => pipeline

/-- More steps than the rest of a pass takes. -/
def stepsLeft (pipeline : Pipeline ι ω) : Nat :=
  match pipeline.loop with
  | .delivering pass _ => (pass.rest.length + 1) * (pipeline.broker.policy.maxAttempts.toNat + 1)
  | _ => 0

/-- Stops the loop and then closes the broker. -/
def shutdown (handle : Broker.Handler ι ω) (pipeline : Pipeline ι ω) : Pipeline ι ω :=
  let pipeline := endPass handle pipeline.stepsLeft pipeline
  let loop := match pipeline.loop with
    | .starting => if pipeline.plan.period = 0 then .broken else .stopped
    | .broken => .broken
    | _ => .stopped
  { pipeline with loop, broker := pipeline.broker.close }

end Pipeline
end Fieldwatch
