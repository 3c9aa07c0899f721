import Fieldwatch.Event.Envelope
import Fieldwatch.World

/-!
# The broker

A broker in the same process. An envelope is handed to every subscriber of its type. A subscriber
that refuses is tried again after a growing wait, until its attempts run out and the envelope is
kept as a dead letter. Subscribers are independent of each other.
-/
namespace Fieldwatch

/-- How often and how soon a refused envelope is delivered again, and how many published envelopes
are remembered. -/
structure BrokerPolicy where
  maxAttempts : UInt32 := 5
  /-- The wait before the second attempt, in milliseconds; before the third it is twice as long. -/
  backoffMillis : Nat := 200
  logCapacity : Nat := 0
  deriving DecidableEq, Repr

inductive BrokerError
  | publishFailed (eventType reason : String)
  | closed
  deriving DecidableEq, Repr

def BrokerError.message : BrokerError → String
  | publishFailed eventType reason => "Publish failed for " ++ eventType ++ ": " ++ reason
  | closed => "Broker closed"

/-- An envelope on its way to one subscriber, at one attempt. -/
structure Parcel (ι : Type) where
  envelope : Envelope
  subscriber : ι
  /-- One for the first delivery. -/
  attempt : UInt32

/-- An envelope that a subscriber refused at every attempt. -/
structure DeadLetter (ι : Type) where
  envelope : Envelope
  subscriber : ι
  attempts : UInt32
  /-- What the last refusal said. -/
  error : String

/-- The broker, with subscribers of some type. -/
structure Broker (ι : Type) where
  policy : BrokerPolicy
  /-- Who takes which type of event, in the order of subscription. -/
  subscriptions : List (String × ι) := []
  /-- The envelopes published last, the oldest first. -/
  published : List Envelope := []
  deadLetters : List (DeadLetter ι) := []
  isClosed : Bool := false

inductive Verdict (ι : Type)
  | taken
  | again (parcel : Parcel ι)
  | dead (letter : DeadLetter ι)

namespace BrokerPolicy

variable {ι : Type}

/-- What becomes of a delivery that was taken or refused. -/
def judge (policy : BrokerPolicy) (parcel : Parcel ι) : Except String Unit → Verdict ι
  | .ok _ => .taken
  | .error reason =>
    if parcel.attempt < policy.maxAttempts then
      .again { parcel with attempt := parcel.attempt + 1 }
    else .dead ⟨parcel.envelope, parcel.subscriber, parcel.attempt, reason⟩

/-- The wait before parcels of one round are delivered, in milliseconds. -/
def pause (policy : BrokerPolicy) : List (Parcel ι) → Nat
  | [] => 0
  | parcel :: _ => policy.backoffMillis * (parcel.attempt.toNat - 1)

end BrokerPolicy

namespace Broker

variable {ι ω σ : Type}

def subscribe (broker : Broker ι) (eventTypes : List String) (subscriber : ι) : Broker ι :=
  { broker with
    subscriptions := broker.subscriptions
      ++ eventTypes.map fun eventType => (eventType, subscriber) }

/-- The subscribers of a type of event, in the order of subscription. -/
def subscribersOf (broker : Broker ι) (eventType : String) : List ι :=
  (broker.subscriptions.filter fun entry => entry.1 = eventType).map Prod.snd

/-- Takes no more envelopes. -/
def close (broker : Broker ι) : Broker ι := { broker with isClosed := true }

/-- A log with one more envelope; a full one loses its oldest. -/
def logged (capacity : Nat) (log : List Envelope) (envelope : Envelope) : List Envelope :=
  if capacity = 0 then log
  else if log.length = capacity then log.drop 1 ++ [envelope]
  else log ++ [envelope]

/-- Takes an envelope, if the broker is open: one parcel for each subscriber. -/
def accept (broker : Broker ι) (envelope : Envelope) :
    Except BrokerError (Broker ι × List (Parcel ι)) :=
  if broker.isClosed then .error .closed
  else
    .ok ({ broker with published := logged broker.policy.logCapacity broker.published envelope },
      (broker.subscribersOf envelope.eventType).map fun subscriber => ⟨envelope, subscriber, 1⟩)

/-- How subscribers take a delivery: it may change what they share, and be refused. -/
abbrev Handler (ι ω : Type) := Parcel ι → StateM ω (Except String Unit)

variable [Hosts ω σ]

/-- One attempt to deliver a parcel, and the parcel for the next attempt if there is one. -/
def deliver (handle : Handler ι ω) (parcel : Parcel ι) :
    StateM (Broker ι × ω) (Option (Parcel ι)) := fun (broker, shared) =>
  let (result, shared) := handle parcel shared
  match broker.policy.judge parcel result with
  | .taken => (none, broker, shared)
  | .again parcel => (some parcel, broker, Hosts.count .redeliveries 1 shared)
  | .dead letter =>
    (none, { broker with deadLetters := broker.deadLetters ++ [letter] },
      Hosts.count .deadLetters 1 shared)

/-- One attempt for each parcel, in the order of subscription, and the parcels for the next. -/
def round (handle : Handler ι ω) : List (Parcel ι) → StateM (Broker ι × ω) (List (Parcel ι))
  | [] => return []
  | parcel :: rest => do
    let next ← deliver handle parcel
    return next.toList ++ (← round handle rest)

end Broker

/-! ## Publishing -/

/-- A state that holds a broker and what its subscribers share. -/
class Carries (τ : Type) (ι ω : outParam Type) where
  carried : τ → Broker ι × ω
  withCarried : Broker ι × ω → τ → τ

instance {ι ω : Type} : Carries (Broker ι × ω) ι ω where
  carried state := state
  withCarried inner _ := inner

instance {ι ω σ : Type} [Hosts ω σ] : Hosts (Broker ι × ω) σ where
  world state := Hosts.world state.2
  withWorld inner state := (state.1, Hosts.withWorld inner state.2)
  world_withWorld inner state := Hosts.world_withWorld inner state.2
  withWorld_world state := by simp [Hosts.withWorld_world]
  withWorld_withWorld inner other state := by simp [Hosts.withWorld_withWorld]

/-- Acts on the broker that a state holds. -/
def Carries.act {τ ι ω α : Type} [Carries τ ι ω] (action : StateM (Broker ι × ω) α) :
    StateM τ α := fun state =>
  let (result, inner) := action (carried state)
  (result, withCarried inner state)

namespace Broker

variable {τ ι ω σ : Type} [Carries τ ι ω] [Hosts ω σ]

/-- Hands over an envelope and makes the first attempt. -/
def send (handle : Handler ι ω) (envelope : Envelope) :
    StateM (Broker ι × ω) (Except BrokerError (List (Parcel ι))) := fun (broker, shared) =>
  match broker.accept envelope with
  | .error error => (.error error, broker, shared)
  | .ok (broker, parcels) =>
    let (rest, state) := round handle parcels (broker, shared)
    (.ok rest, state)

/-- Repeats rounds, with a wait before each, until no parcel is left; `rounds` bounds them. -/
def redeliver (handle : Handler ι ω) (wait : Nat → StateM τ Unit) :
    Nat → List (Parcel ι) → StateM τ Unit
  | 0, _ | _, [] => return ()
  | rounds + 1, parcels => do
    let state ← get
    wait ((Carries.carried (ι := ι) (ω := ω) state).1.policy.pause parcels)
    redeliver handle wait rounds (← Carries.act (round handle parcels))

/-- Publishes an envelope: answers once every subscriber took it or ran out of attempts. -/
def publish (handle : Handler ι ω) (wait : Nat → StateM τ Unit) (envelope : Envelope) :
    StateM τ (Except BrokerError Unit) := do
  match ← Carries.act (send handle envelope) with
  | .error error => return .error error
  | .ok parcels =>
    let state ← get
    let most := (Carries.carried (ι := ι) (ω := ω) state).1.policy.maxAttempts
    redeliver handle wait most.toNat parcels
    return .ok ()

end Broker
end Fieldwatch
