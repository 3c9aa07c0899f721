import Fieldwatch.Inbox.Handling
import Fieldwatch.Pipeline.Basic

/-!
# Rehearsals

A pipeline with stand-ins around it: probes that subscribe to the broker, note what they are given
and refuse as often as they were told to, and a gate between the relay and the broker that refuses
envelopes on demand.
-/
namespace Fieldwatch.Rehearsal

/-- A subscriber that notes what it is given. -/
structure Probe where
  name : String
  /-- How many more deliveries it refuses. -/
  refusals : Nat := 0
  /-- The envelopes it was given, with the attempt, the first one first. -/
  seen : List (Envelope × UInt32) := []

/-- The probe after a delivery, and whether it took it. -/
def Probe.receive (probe : Probe) (envelope : Envelope) (attempt : UInt32) :
    Except String Unit × Probe :=
  let seen := probe.seen ++ [(envelope, attempt)]
  match probe.refusals with
  | 0 => (.ok (), { probe with seen })
  | refusals + 1 =>
    (.error (probe.name ++ " refused attempt " ++ toString attempt.toNat),
      { probe with seen, refusals })

/-- What stands between the relay and the broker. -/
structure Gate where
  /-- How many of the next envelopes are refused, whatever their type. -/
  refusals : Nat := 0
  /-- The types of event that are refused. -/
  blocked : List String := []

/-- The gate after an envelope came by, and whether it was let through. -/
def Gate.check (gate : Gate) (envelope : Envelope) : Except BrokerError Unit × Gate :=
  match gate.refusals with
  | refusals + 1 =>
    (.error (.publishFailed envelope.eventType "refused"), { gate with refusals })
  | 0 =>
    if envelope.eventType ∈ gate.blocked then
      (.error (.publishFailed envelope.eventType "blocked"), gate)
    else (.ok (), gate)

inductive Guest
  | inbox
  /-- The probe at a place. -/
  | probe (place : Nat)
  deriving DecidableEq, Repr

def Guest.name (probes : List Probe) : Guest → String
  | inbox => Inbox.name
  | probe place => ((probes[place]?).map Probe.name).getD ""

/-- What the subscribers of a rehearsal share. -/
abbrev Shared (σ : Type) := World σ × List Probe

/-- How the subscribers of a rehearsal take a delivery. -/
def handle {σ : Type} [Backend σ] (policy : StalenessPolicy) : Broker.Handler Guest (Shared σ) :=
  fun parcel (world, probes) =>
    match parcel.subscriber with
    | .inbox =>
      let (result, world) := Inbox.process policy parcel.envelope parcel.attempt world
      let taken := match result with
        | .ok _ => .ok ()
        | .error error => .error error.message
      (taken, world, probes)
    | .probe place =>
      match probes[place]? with
      | some probe =>
        let (taken, probe) := probe.receive parcel.envelope parcel.attempt
        (taken, world, probes.set place probe)
      | none => (.ok (), world, probes)

structure Scene (σ : Type) where
  pipeline : Pipeline Guest (Shared σ)
  gate : Gate := {}
  policy : StalenessPolicy

instance {σ : Type} : Hosts (Scene σ) σ where
  world scene := Hosts.world scene.pipeline
  withWorld inner scene := { scene with pipeline := Hosts.withWorld inner scene.pipeline }
  world_withWorld inner scene := Hosts.world_withWorld inner scene.pipeline
  withWorld_world scene := by simp [Hosts.withWorld_world]
  withWorld_withWorld inner other scene := by simp [Hosts.withWorld_withWorld]

namespace Scene

variable {σ : Type} [Backend σ]

/-- A rehearsal in which the relay runs only when it is asked to. -/
def start (world : World σ) (broker : BrokerPolicy) (policy : StalenessPolicy) (relay : Relay) :
    Scene σ where
  pipeline := {
    broker := { policy := broker }
    shared := (world, [])
    plan := { relay }
    loop := .stopped
    clock := 0 }
  policy

def probes (scene : Scene σ) : List Probe := scene.pipeline.shared.2

def subscribe (scene : Scene σ) (eventTypes : List String) (guest : Guest) : Scene σ :=
  { scene with
    pipeline.broker := scene.pipeline.broker.subscribe eventTypes guest }

def subscribeProbe (scene : Scene σ) (eventTypes : List String) (probe : Probe) : Scene σ :=
  let place := scene.probes.length
  { scene with
    pipeline.shared := (scene.pipeline.shared.1, scene.probes ++ [probe]) }.subscribe eventTypes
      (.probe place)

/-- A rehearsal of the pipeline that runs with settings. -/
def running (world : World σ) (settings : Settings) : Scene σ where
  pipeline := Pipeline.start (world, []) settings .inbox
  policy := .ofSeconds settings.toleranceSeconds

def onPipeline {α : Type} (action : StateM (Pipeline Guest (Shared σ)) α) : StateM (Scene σ) α :=
  fun scene =>
    let (result, pipeline) := action scene.pipeline
    (result, { scene with pipeline })

def publish (envelope : Envelope) : StateM (Scene σ) (Except BrokerError Unit) := do
  onPipeline (Pipeline.publish (handle (← get).policy) envelope)

/-- Publishes an envelope through the gate. -/
def publishThroughGate (envelope : Envelope) : StateM (Scene σ) (Except BrokerError Unit) := do
  let scene ← get
  let (passed, gate) := scene.gate.check envelope
  set { scene with gate }
  match passed with
  | .ok _ => publish envelope
  | .error error => return .error error

/-- One pass of the relay over the outbox, through the gate. -/
def dispatch (batch : UInt64) : StateM (Scene σ) (Except StoreError RelayReport) := do
  (← get).pipeline.plan.relay.dispatch publishThroughGate batch

def wait (millis : Nat) : StateM (Scene σ) Unit := do
  onPipeline (Pipeline.wait (handle (← get).policy) millis)

def shutdown (scene : Scene σ) : Scene σ :=
  { scene with pipeline := scene.pipeline.shutdown (handle scene.policy) }

end Scene
end Fieldwatch.Rehearsal
