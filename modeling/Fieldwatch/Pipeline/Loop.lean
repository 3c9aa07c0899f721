import Fieldwatch.Relay

/-!
# The relay loop

The relay runs beside everything else: a pass over the outbox at every poll tick and a pruning at
every prune tick, until it is told to stop. Time is counted in milliseconds. A pass that waits for
a redelivery is resumed when the wait is over, and the loop looks neither at ticks nor at the stop
signal before the pass is done.
-/
namespace Fieldwatch

/-- A pass that waits to deliver an entry again. -/
structure Pass (ι : Type) where
  entry : OutboxEntry
  /-- The parcels of the entry that were refused so far. -/
  parcels : List (Parcel ι)
  /-- The entries after it. -/
  rest : List OutboxEntry
  /-- When the next attempt is made. -/
  wake : Nat

structure Ticks where
  pass : Nat
  prune : Nat
  deriving DecidableEq, Repr

inductive RelayLoop (ι : Type)
  /-- Not yet begun. -/
  | starting
  /-- Waiting for a tick or the stop signal. -/
  | idle (ticks : Ticks)
  /-- Within a pass. -/
  | delivering (pass : Pass ι) (ticks : Ticks)
  /-- Told to stop. -/
  | stopped
  /-- Broken down, for want of a time between polls. -/
  | broken

structure LoopPlan where
  relay : Relay
  /-- The time between two polls. -/
  period : Nat := 1000
  /-- The most entries in a pass. -/
  batch : UInt64 := 100
  deriving DecidableEq, Repr

def LoopPlan.prunePeriod : Nat := 60000

/-- How late a tick may come and still leave the next one in its place. -/
def Ticks.slack : Nat := 5

/-- When the tick after one is due, which came at a time: one period after it was due, or after it
came if it came late. -/
def Ticks.after (due period now : Nat) : Nat :=
  if due + slack < now then now + period else due + period

namespace RelayLoop

variable {ι ω σ : Type} [Backend σ] [Hosts ω σ]

/-- When the loop next does something, if it does; what is overdue is done at once. -/
def next? (loop : RelayLoop ι) (plan : LoopPlan) (now : Nat) : Option Nat :=
  match loop with
  | starting => some now
  | idle ticks =>
    some (max now (if plan.relay.retention.isSome then min ticks.pass ticks.prune else ticks.pass))
  | delivering pass _ => some (max now pass.wake)
  | stopped | broken => none

/-- Repeats rounds as long as there is no wait before them; `rounds` bounds them. -/
def deliverUnpaused (handle : Broker.Handler ι ω) :
    Nat → List (Parcel ι) → StateM (Broker ι × ω) (List (Parcel ι))
  | 0, parcels => return parcels
  | _, [] => return []
  | rounds + 1, parcels => do
    let (broker, _) ← get
    if broker.policy.pause parcels = 0 then
      deliverUnpaused handle rounds (← Broker.round handle parcels)
    else return parcels

/-- Hands over an envelope and delivers it as long as there is no wait. -/
def sendUnpaused (handle : Broker.Handler ι ω) (envelope : Envelope) :
    StateM (Broker ι × ω) (Except BrokerError (List (Parcel ι))) := do
  match ← Broker.send handle envelope with
  | .error error => return .error error
  | .ok parcels =>
    let (broker, _) ← get
    return .ok (← deliverUnpaused handle broker.policy.maxAttempts.toNat parcels)

/-- Delivers entries one after the other, until all are settled, the store fails, or one has to be
delivered again after a wait. -/
def deliverAll (handle : Broker.Handler ι ω) (now : Nat) :
    List OutboxEntry → StateM (Broker ι × ω) (Option (Pass ι))
  | [] => return none
  | entry :: rest => do
    match ← sendUnpaused handle entry.envelope with
    | .ok (parcel :: parcels) =>
      let (broker, _) ← get
      return some ⟨entry, parcel :: parcels, rest,
        now + broker.policy.pause (parcel :: parcels)⟩
    | .ok [] =>
      match ← Hosts.run (Relay.settle entry (.ok ())) with
      | .ok _ => deliverAll handle now rest
      | .error _ => return none
    | .error error =>
      match ← Hosts.run (Relay.settle entry (.error error)) with
      | .ok _ => deliverAll handle now rest
      | .error _ => return none

/-- Goes on with a pass whose wait is over. -/
def resume (handle : Broker.Handler ι ω) (now : Nat) (pass : Pass ι) :
    StateM (Broker ι × ω) (Option (Pass ι)) := do
  match ← Broker.round handle pass.parcels with
  | [] =>
    match ← Hosts.run (Relay.settle pass.entry (.ok ())) with
    | .ok _ => deliverAll handle now pass.rest
    | .error _ => return none
  | parcels =>
    let (broker, _) ← get
    return some { pass with parcels, wake := now + broker.policy.pause parcels }

/-- The loop within a pass, or idle after it. -/
def within (ticks : Ticks) : Option (Pass ι) → RelayLoop ι
  | some pass => delivering pass ticks
  | none => idle ticks

def beginPass (handle : Broker.Handler ι ω) (plan : LoopPlan) (now : Nat) :
    StateM (Broker ι × ω) (Option (Pass ι)) := do
  match ← Hosts.run (plan.relay.fetch plan.batch) with
  | .ok entries => deliverAll handle now entries
  | .error _ => return none

/-- What the loop does when its time has come. Of two ticks due the pass goes first. -/
def step (handle : Broker.Handler ι ω) (plan : LoopPlan) (now : Nat) (loop : RelayLoop ι) :
    StateM (Broker ι × ω) (RelayLoop ι) := do
  match loop with
  | starting => return if plan.period = 0 then broken else idle ⟨now, now⟩
  | idle ticks =>
    if ticks.pass ≤ now then
      let ticks := { ticks with pass := Ticks.after ticks.pass plan.period now }
      return within ticks (← beginPass handle plan now)
    else
      let _ ← Hosts.run plan.relay.prune
      return idle { ticks with prune := Ticks.after ticks.prune LoopPlan.prunePeriod now }
  | delivering pass ticks => return within ticks (← resume handle now pass)
  | stopped => return stopped
  | broken => return broken

end RelayLoop
end Fieldwatch
