import Fieldwatch.Proofs.Delivery.Attempts

/-!
# The marks of a pass

A pass makes an attempt for each entry that it took, and writes the answer down before it goes on
with the next. A store may refuse to have it written down, and the pass is then over. A pass that
nothing disturbs is one way for the steps of a relay to follow each other.
-/
namespace Fieldwatch.Delivery

/-- An attempt, and what the store answered when it was written down. -/
structure Mark extends Attempt where
  written : Except StoreError Unit

/-- A publisher that takes down what it is handed and what it answers. -/
def noting {τ : Type} (publish : Envelope → StateM τ (Except BrokerError Unit))
    (envelope : Envelope) :
    StateM (τ × List (Envelope × Except BrokerError Unit)) (Except BrokerError Unit) :=
  fun (state, notes) =>
    let (result, told) := publish envelope state
    (result, told, notes ++ [(envelope, result)])

section

variable {σ τ : Type} [Backend σ] [Hosts τ σ]
  {publish : Envelope → StateM τ (Except BrokerError Unit)}

/-- The marks of a pass with the entries that it took. -/
def marksWith (publish : Envelope → StateM τ (Except BrokerError Unit)) :
    List OutboxEntry → τ → List Mark
  | [], _ => []
  | entry :: rest, state =>
    let (result, told) := publish entry.envelope state
    let (written, after) := Hosts.run (Relay.settle entry result) told
    match written with
    | .error _ => [⟨⟨entry, result⟩, written⟩]
    | .ok _ => ⟨⟨entry, result⟩, written⟩ :: marksWith publish rest after

theorem marksWith_cons {entry : OutboxEntry} {rest : List OutboxEntry} {state told after : τ}
    {result : Except BrokerError Unit} {written : Except StoreError Unit}
    (given : publish entry.envelope state = (result, told))
    (settled : Hosts.run (Relay.settle entry result) told = (written, after)) :
    marksWith publish (entry :: rest) state =
      match written with
      | .error _ => [⟨⟨entry, result⟩, written⟩]
      | .ok _ => ⟨⟨entry, result⟩, written⟩ :: marksWith publish rest after := by
  simp only [marksWith, given, settled]
  cases written <;> rfl

/-- The publisher of a pass is handed the envelopes of its marks, one for each, and answers as they
say. -/
theorem dispatchAll_noting (report : RelayReport) (entries : List OutboxEntry) (state : τ)
    (notes : List (Envelope × Except BrokerError Unit)) :
    Relay.dispatchAll (noting publish) report entries (state, notes) =
      ((Relay.dispatchAll publish report entries state).1,
        (Relay.dispatchAll publish report entries state).2,
        notes ++ (marksWith publish entries state).map fun mark =>
          (mark.entry.envelope, mark.result)) := by
  induction entries generalizing report state notes with
  | nil =>
    rw [marksWith, List.map_nil, List.append_nil]
    rfl
  | cons entry rest ih =>
    rcases given : publish entry.envelope state with ⟨result, told⟩
    rcases settled : Hosts.run (Relay.settle entry result) told with ⟨written, after⟩
    have noted : noting publish entry.envelope (state, notes) =
        (result, told, notes ++ [(entry.envelope, result)]) := by
      simp only [noting, given]
    have settledToo : Hosts.run (Relay.settle entry result)
        (told, notes ++ [(entry.envelope, result)]) =
          (written, after, notes ++ [(entry.envelope, result)]) := by
      change ((Hosts.run (Relay.settle entry result) told).1,
        (Hosts.run (Relay.settle entry result) told).2, _) = _
      rw [settled]
    rw [dispatchAll_cons noted settledToo, dispatchAll_cons given settled,
      marksWith_cons given settled]
    cases written with
    | error error => rfl
    | ok _ =>
      simp only [ih, List.map_cons, List.append_assoc, List.singleton_append]

/-- The attempts of a pass with the entries that it took. -/
def attemptsWith (publish : Envelope → StateM τ (Except BrokerError Unit))
    (entries : List OutboxEntry) (state : τ) : List Attempt :=
  (marksWith publish entries state).map Mark.toAttempt

theorem attemptsWith_cons {entry : OutboxEntry} {rest : List OutboxEntry} {state told after : τ}
    {result : Except BrokerError Unit} {written : Except StoreError Unit}
    (given : publish entry.envelope state = (result, told))
    (settled : Hosts.run (Relay.settle entry result) told = (written, after)) :
    attemptsWith publish (entry :: rest) state =
      match written with
      | .error _ => [⟨entry, result⟩]
      | .ok _ => ⟨entry, result⟩ :: attemptsWith publish rest after := by
  rw [attemptsWith, marksWith_cons given settled]
  cases written <;> rfl

end

/-! ## A pass without interference -/

/-- What happens when an envelope is handed over and answered for. -/
def exchanged : Envelope × Except BrokerError Unit → List Happening
  | (envelope, result) => [.handed envelope, .answered envelope result]

section Undisturbed

variable {π : Type} {publish : Envelope → StateM (World Tables × π) (Except BrokerError Unit)}
  (apart : ∀ envelope state, (publish envelope state).2.1 = state.1)
include apart

/-- Working off entries with a publisher that leaves the store alone is a run of steps, and what
happens in it is what the marks tell. -/
theorem dispatchAll_steps (report : RelayReport) (entries : List OutboxEntry)
    (world : World Tables) (other : π) (passes : List Pass) (log : List Happening) :
    OutboxSteps ⟨world, passes ++ [.ready entries], log⟩
      ⟨(Relay.dispatchAll publish report entries (world, other)).2.1, passes,
        log ++ (marksWith publish entries (world, other)).flatMap fun mark =>
          exchanged (mark.entry.envelope, mark.result)⟩ := by
  induction entries generalizing report world other log with
  | nil =>
    have done : OutboxStep ⟨world, passes ++ [.ready []], log⟩ ⟨world, passes ++ [], log⟩ := .stop
    rw [List.append_nil] at done
    rw [marksWith, List.flatMap_nil, List.append_nil]
    exact .single done
  | cons entry rest ih =>
    have untouched := apart entry.envelope (world, other)
    rcases given : publish entry.envelope (world, other) with ⟨result, same, left⟩
    rw [given] at untouched
    obtain rfl : same = world := untouched
    rcases settled : Relay.settle entry result same with ⟨written, after⟩
    have ran : Hosts.run (Relay.settle entry result) (same, left) = (written, after, left) := by
      change ((Relay.settle entry result same).1, (Relay.settle entry result same).2, left) = _
      rw [settled]
    rw [dispatchAll_cons given ran, marksWith_cons given ran]
    have answered : OutboxSteps ⟨same, passes ++ [.ready (entry :: rest)], log⟩
        ⟨same, passes ++ [.settling entry result rest],
          log ++ [.handed entry.envelope] ++ [.answered entry.envelope result]⟩ :=
      .tail (.single .hand) (.answer result)
    rw [List.append_assoc] at answered
    cases written with
    | error error =>
      have aborting : OutboxStep ⟨same, passes ++ [.settling entry result rest],
            log ++ exchanged (entry.envelope, result)⟩
          ⟨after, passes ++ [], log ++ exchanged (entry.envelope, result)⟩ := .abort settled
      rw [List.append_nil] at aborting
      exact answered.tail aborting
    | ok written =>
      have onward := ih (report.after result) after left
        (log ++ exchanged (entry.envelope, result))
      rw [List.append_assoc] at onward
      exact (answered.tail (.settle settled)).trans onward

/-- A pass over the outbox that nothing disturbs is a run of steps that leaves no pass behind. What
happens in it is that the publisher is handed envelopes and answers for them. -/
theorem dispatch_steps (relay : Relay) (batch : UInt64) (world : World Tables) (other : π)
    (passes : List Pass) (log : List Happening) :
    OutboxSteps ⟨world, passes, log⟩
      ⟨(relay.dispatch publish batch (world, other)).2.1, passes,
        log ++ (relay.dispatch (noting publish) batch ((world, other), [])).2.2.flatMap
          exchanged⟩ := by
  have fetched : relay.fetch batch world =
      (.ok (world.store.unpublished batch relay.maxAttempts), world) := rfl
  have steps := dispatchAll_steps apart {} (world.store.unpublished batch relay.maxAttempts) world
    other passes log
  have noted : (relay.dispatch (noting publish) batch ((world, other), [])).2.2 =
      (marksWith publish (world.store.unpublished batch relay.maxAttempts) (world, other)).map
        fun mark => (mark.entry.envelope, mark.result) :=
    congrArg (fun answer => answer.2.2) (dispatchAll_noting {} _ (world, other) [])
  rw [noted, List.flatMap_map]
  exact .head (.fetch fetched) steps

end Undisturbed
end Fieldwatch.Delivery
