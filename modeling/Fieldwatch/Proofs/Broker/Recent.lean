import Mathlib.Data.List.DropRight
import Fieldwatch.Proofs.Broker.Publishing

/-!
# What a broker remembers

The log of a broker holds the envelopes that were handed over last, as many as fit, and nothing of
what came after the broker was closed. Deliveries do not touch it, whether they are awaited one
after the other or go on while more is asked of the broker.
-/
namespace Fieldwatch.Broker

variable {ι : Type}

/-! ## What deliveries leave alone -/

/-- Whether a broker has changed only by the dead letters that it keeps. -/
def LettersOnly (before after : Broker ι) : Prop :=
  ∃ letters, after = { before with deadLetters := letters }

namespace LettersOnly

variable {before middle after : Broker ι}

theorem refl (broker : Broker ι) : LettersOnly broker broker := ⟨broker.deadLetters, rfl⟩

theorem trans (first : LettersOnly before middle) (second : LettersOnly middle after) :
    LettersOnly before after := by
  obtain ⟨kept, rfl⟩ := first
  obtain ⟨left, rfl⟩ := second
  exact ⟨left, rfl⟩

theorem policy_eq (changed : LettersOnly before after) : after.policy = before.policy := by
  obtain ⟨letters, rfl⟩ := changed
  rfl

theorem isClosed_eq (changed : LettersOnly before after) : after.isClosed = before.isClosed := by
  obtain ⟨letters, rfl⟩ := changed
  rfl

theorem published_eq (changed : LettersOnly before after) :
    after.published = before.published := by
  obtain ⟨letters, rfl⟩ := changed
  rfl

end LettersOnly

theorem SpreadStep.lettersOnly {spread next : Spread ι} (step : SpreadStep spread next) :
    LettersOnly spread.broker next.broker := by
  obtain ⟨moves⟩ := step
  exact ⟨_, rfl⟩

section Deliveries

variable {ω σ : Type} [Hosts ω σ] (handle : Handler ι ω)

theorem deliver_lettersOnly (parcel : Parcel ι) (state : Broker ι × ω) :
    LettersOnly state.1 (deliver handle parcel state).2.1 := by
  obtain ⟨broker, shared⟩ := state
  obtain ⟨again, letters, told, delivered, -⟩ := deliver_cases handle parcel broker shared
  rw [delivered]
  exact ⟨_, rfl⟩

theorem round_lettersOnly (parcels : List (Parcel ι)) (state : Broker ι × ω) :
    LettersOnly state.1 (round handle parcels state).2.1 := by
  induction parcels generalizing state with
  | nil => exact .refl state.1
  | cons parcel rest ih =>
    rw [round_cons]
    exact (deliver_lettersOnly handle parcel state).trans (ih _)

variable {wait : Nat → StateM (Broker ι × ω) Unit}
  (quiet : ∀ millis state, (wait millis state).2.1 = state.1)
include quiet

theorem redeliver_lettersOnly (rounds : Nat) (parcels : List (Parcel ι)) (state : Broker ι × ω) :
    LettersOnly state.1 (redeliver handle wait rounds parcels state).2.1 := by
  induction rounds generalizing parcels state with
  | zero => exact .refl state.1
  | succ rounds ih =>
    cases parcels with
    | nil => exact .refl state.1
    | cons parcel rest =>
      have waited := quiet (state.1.policy.pause (parcel :: rest)) state
      have went := round_lettersOnly handle (parcel :: rest)
        (wait (state.1.policy.pause (parcel :: rest)) state).2
      rw [waited] at went
      exact went.trans (ih _ _)

end Deliveries

/-! ## Requests -/

/-- What is asked of a broker. -/
inductive Request (ι : Type)
  | subscribe (eventTypes : List String) (subscriber : ι)
  | publish (envelope : Envelope)
  | close

/-- What a broker makes of a request at once, and the deliveries that it begins. -/
def heed (broker : Broker ι) : Request ι → Broker ι × List (Parcel ι)
  | .subscribe eventTypes subscriber => (broker.subscribe eventTypes subscriber, [])
  | .publish envelope =>
    match broker.accept envelope with
    | .ok accepted => accepted
    | .error _ => (broker, [])
  | .close => (broker.close, [])

/-- The envelopes handed over before the broker was closed, the oldest first. -/
def handedWhileOpen : List (Request ι) → List Envelope
  | [] => []
  | .subscribe _ _ :: rest => handedWhileOpen rest
  | .publish envelope :: rest => envelope :: handedWhileOpen rest
  | .close :: _ => []

theorem handedWhileOpen_append_of_closed {requests : List (Request ι)}
    (closed : .close ∈ requests) (more : List (Request ι)) :
    handedWhileOpen (requests ++ more) = handedWhileOpen requests := by
  induction requests with
  | nil => cases closed
  | cons request rest ih =>
    cases request with
    | subscribe eventTypes subscriber => exact ih (by simpa using closed)
    | publish envelope => exact congrArg (envelope :: ·) (ih (by simpa using closed))
    | close => rfl

theorem handedWhileOpen_append_of_open {requests : List (Request ι)}
    (isOpen : .close ∉ requests) (more : List (Request ι)) :
    handedWhileOpen (requests ++ more) = handedWhileOpen requests ++ handedWhileOpen more := by
  induction requests with
  | nil => rfl
  | cons request rest ih =>
    cases request with
    | subscribe eventTypes subscriber => exact ih (by simpa using isOpen)
    | publish envelope => exact congrArg (envelope :: ·) (ih (by simpa using isOpen))
    | close => exact absurd List.mem_cons_self isOpen

/-! ## The log -/

/-- A log of the last envelopes, with one more, holds the last of all. -/
theorem logged_rtake (capacity : Nat) (envelopes : List Envelope) (envelope : Envelope) :
    logged capacity (envelopes.rtake capacity) envelope =
      (envelopes ++ [envelope]).rtake capacity := by
  have length : (envelopes.rtake capacity).length = min capacity envelopes.length := by
    rw [List.rtake, List.length_drop]
    omega
  cases capacity with
  | zero => rw [logged, if_pos rfl, List.rtake_zero, List.rtake_zero]
  | succ capacity =>
    rw [logged, if_neg (Nat.succ_ne_zero capacity), List.rtake_concat_succ, length]
    by_cases full : capacity + 1 ≤ envelopes.length
    · -- one place before the last of a full log begins one place later
      rw [Nat.min_eq_left full, if_pos rfl, List.rtake, List.drop_drop, List.rtake]
      congr 2
      omega
    · rw [if_neg (by omega), List.rtake, List.rtake]
      congr 2
      omega

/-- What a broker is after requests: it is closed if that was asked, and its log holds the last
envelopes that were handed over before. -/
structure Remembers (policy : BrokerPolicy) (requests : List (Request ι)) (broker : Broker ι) :
    Prop where
  policy_eq : broker.policy = policy
  isClosed_iff : broker.isClosed = true ↔ .close ∈ requests
  published_eq : broker.published = (handedWhileOpen requests).rtake policy.logCapacity

namespace Remembers

variable {policy : BrokerPolicy} {requests : List (Request ι)} {broker after : Broker ι}

theorem lettersOnly (remembers : Remembers policy requests broker)
    (changed : LettersOnly broker after) : Remembers policy requests after :=
  ⟨changed.policy_eq.trans remembers.policy_eq, by rw [changed.isClosed_eq, remembers.isClosed_iff],
    changed.published_eq.trans remembers.published_eq⟩

theorem heed (remembers : Remembers policy requests broker) (request : Request ι) :
    Remembers policy (requests ++ [request]) (broker.heed request).1 := by
  obtain ⟨rfl, isClosed_iff, published⟩ := remembers
  by_cases closed : .close ∈ requests
  · have isClosed := isClosed_iff.mpr closed
    have still : (Request.close : Request ι) ∈ requests ++ [request] :=
      List.mem_append_left _ closed
    have same := handedWhileOpen_append_of_closed closed [request]
    cases request with
    | subscribe eventTypes subscriber =>
      exact ⟨rfl, iff_of_true isClosed still, by rw [same, ← published]; rfl⟩
    | publish envelope =>
      simp only [Broker.heed, accept_of_closed isClosed]
      exact ⟨rfl, iff_of_true isClosed still, by rw [same, ← published]⟩
    | close => exact ⟨rfl, iff_of_true rfl still, by rw [same, ← published]; rfl⟩
  · have isOpen : broker.isClosed = false := Bool.eq_false_iff.mpr (mt isClosed_iff.mp closed)
    have grown := handedWhileOpen_append_of_open closed [request]
    cases request with
    | subscribe eventTypes subscriber =>
      refine ⟨rfl, iff_of_false ?_ (by simpa using closed), ?_⟩
      · exact Bool.eq_false_iff.mp isOpen
      · rw [grown, handedWhileOpen, handedWhileOpen, List.append_nil, ← published]
        rfl
    | publish envelope =>
      simp only [Broker.heed, accept_of_open isOpen]
      refine ⟨rfl, iff_of_false ?_ (by simpa using closed), ?_⟩
      · exact Bool.eq_false_iff.mp isOpen
      · rw [grown, handedWhileOpen, handedWhileOpen, ← logged_rtake, ← published]
    | close =>
      refine ⟨rfl, iff_of_true rfl (List.mem_append_right _ (List.mem_singleton_self _)), ?_⟩
      rw [grown, handedWhileOpen, List.append_nil, ← published]
      rfl

end Remembers

/-! ## Requests one after the other -/

section Performing

variable {ω σ : Type} [Hosts ω σ]

/-- Does what is asked; what is published is awaited until no delivery of it is left. -/
def perform (handle : Handler ι ω) (wait : Nat → StateM (Broker ι × ω) Unit) :
    Request ι → StateM (Broker ι × ω) Unit
  | .subscribe eventTypes subscriber => modify fun (broker, shared) =>
    (broker.subscribe eventTypes subscriber, shared)
  | .publish envelope => do
    let _ ← publish handle wait envelope
  | .close => modify fun (broker, shared) => (broker.close, shared)

def performAll (handle : Handler ι ω) (wait : Nat → StateM (Broker ι × ω) Unit)
    (requests : List (Request ι)) : StateM (Broker ι × ω) Unit :=
  requests.forM (perform handle wait)

variable (handle : Handler ι ω) {wait : Nat → StateM (Broker ι × ω) Unit}
  (quiet : ∀ millis state, (wait millis state).2.1 = state.1)
include quiet

/-- What is awaited adds dead letters only to what the broker made of the request at once. -/
theorem perform_lettersOnly (request : Request ι) (state : Broker ι × ω) :
    LettersOnly (state.1.heed request).1 (perform handle wait request state).2.1 := by
  obtain ⟨broker, shared⟩ := state
  cases request with
  | subscribe eventTypes subscriber => exact .refl _
  | publish envelope =>
    change LettersOnly _ (publish handle wait envelope (broker, shared)).2.1
    by_cases closed : broker.isClosed = true
    · rw [publish_closed closed handle wait envelope shared]
      simp only [heed, accept_of_closed closed]
      exact .refl broker
    · have taken := accept_of_open (Bool.eq_false_iff.mpr closed) envelope
      rw [publish_of_accept handle taken]
      simp only [heed, taken]
      exact (round_lettersOnly handle _ _).trans (redeliver_lettersOnly handle quiet _ _ _)
  | close => exact .refl _

theorem Remembers.performAll {policy : BrokerPolicy} {before : List (Request ι)}
    {state : Broker ι × ω} (remembers : Remembers policy before state.1)
    (requests : List (Request ι)) :
    Remembers policy (before ++ requests) (performAll handle wait requests state).2.1 := by
  induction requests generalizing before state with
  | nil =>
    rw [List.append_nil]
    exact remembers
  | cons request rest ih =>
    have next := (remembers.heed request).lettersOnly
      (perform_lettersOnly handle quiet request state)
    rw [← List.singleton_append, ← List.append_assoc]
    exact ih next

end Performing

/-! ## Requests beside deliveries -/

/-- What may become of a broker: something is asked of it, or something happens on one of the
deliveries that earlier requests began. -/
inductive Traffic (first : Broker ι) : List (Request ι) → Spread ι → Prop
  | first : Traffic first [] ⟨first, []⟩
  | ask {requests broker courses} (request : Request ι)
    (earlier : Traffic first requests ⟨broker, courses⟩) :
    Traffic first (requests ++ [request]) ⟨(broker.heed request).1,
      courses ++ (Spread.start broker (broker.heed request).2).courses⟩
  | deliver {requests spread next} (earlier : Traffic first requests spread)
    (step : SpreadStep spread next) : Traffic first requests next

theorem Remembers.traffic {policy : BrokerPolicy} {first : Broker ι}
    (remembers : Remembers policy [] first) {requests : List (Request ι)} {spread : Spread ι}
    (traffic : Traffic first requests spread) : Remembers policy requests spread.broker := by
  induction traffic with
  | first => exact remembers
  | ask request _ ih => exact ih.heed request
  | deliver _ step ih => exact ih.lettersOnly step.lettersOnly

/-! ## The recent past -/

theorem remembers_new (policy : BrokerPolicy) : Remembers policy [] ({ policy } : Broker ι) := by
  refine ⟨rfl, iff_of_false Bool.false_ne_true List.not_mem_nil, ?_⟩
  rw [handedWhileOpen, List.rtake_nil]

/-- Whatever is asked of a new broker, its log holds the last of the envelopes that were handed over
before it was closed, in their order, and as many of them as it has room for. It does so whether
what is published is awaited before more is asked or deliveries go on meanwhile, and whatever the
subscribers answer. -/
theorem log_is_recent {ω σ : Type} [Hosts ω σ] (policy : BrokerPolicy)
    (requests : List (Request ι)) :
    (∀ (handle : Handler ι ω) (wait : Nat → StateM (Broker ι × ω) Unit) (shared : ω),
      (∀ millis state, (wait millis state).2.1 = state.1) →
      (performAll handle wait requests ({ policy }, shared)).2.1.published =
        (handedWhileOpen requests).rtake policy.logCapacity) ∧
    (∀ spread, Traffic { policy } requests spread →
      spread.broker.published = (handedWhileOpen requests).rtake policy.logCapacity) ∧
    ((handedWhileOpen requests).rtake policy.logCapacity).length =
      min policy.logCapacity (handedWhileOpen requests).length := by
  refine ⟨?_, ?_, ?_⟩
  · intro handle wait shared quiet
    have first : Remembers policy [] (({ policy }, shared) : Broker ι × ω).1 := remembers_new policy
    exact (Remembers.performAll handle quiet first requests).published_eq
  · exact fun spread traffic => ((remembers_new policy).traffic traffic).published_eq
  · rw [List.rtake, List.length_drop]
    omega

/-- An envelope that no one subscribes to. -/
def greeting : Envelope := { alarm with eventId := ⟨7⟩, eventType := "UserCreated" }

/-- Two alarms with a greeting between them, and another greeting after the end. -/
def busyDay : List (Request Bool) :=
  [.subscribe ["AlertRaised"] false, .publish alarm, .publish greeting, .publish alarm, .close,
    .publish greeting]

/-- A log with room for two holds the greeting and the second alarm, although both alarms ended as
dead letters. -/
theorem busyDay_remembered :
    let evening := (performAll unevenAudience (fun _ => pure ()) busyDay
      ({ policy := ⟨2, 0, 2⟩ }, .atRest ())).2.1
    evening.published = [greeting, alarm] ∧
      evening.deadLetters.map DeadLetter.envelope = [alarm, alarm] := by
  have kept := (log_is_recent ⟨2, 0, 2⟩ busyDay).1 unevenAudience (fun _ => pure ())
    (.atRest ()) fun _ _ => rfl
  exact ⟨kept.trans rfl, rfl⟩

end Fieldwatch.Broker
