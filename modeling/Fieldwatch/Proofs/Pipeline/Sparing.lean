import Fieldwatch.Proofs.Pipeline.Running
import Fieldwatch.Proofs.Pipeline.Signals

/-!
# What a loop leaves on the rows

Beside subscribers that spare the outbox, no row is marked as failed unless a refusal of the broker
is written down, and an entry whose answer is written down has a row that is published. What is
published stays so until it is pruned, which never happens within a pass.
-/
namespace Fieldwatch

open Delivery (outboxOf run_fetch settle_of_row settle_apply prune_spares)

section Rows

variable {ω : Type} [Hosts ω Tables]

/-- Whether an entry has a row that is published. -/
def IsPublished (id : EntryId) (shared : ω) : Prop :=
  ∃ row ∈ outboxOf shared, row.id = id ∧ row.status = .published

/-- Whether every row that is failed later was failed before, and is as it was. -/
def FailsNone (before after : ω) : Prop :=
  ∀ row ∈ outboxOf after, row.status = .failed → row ∈ outboxOf before

/-- Whether no row was marked as failed, and what was published is so still. -/
structure Spares (before after : ω) : Prop where
  failsNone : FailsNone before after
  published : ∀ id, IsPublished id before → IsPublished id after

theorem FailsNone.refl (shared : ω) : FailsNone shared shared := fun _ member _ => member

theorem FailsNone.trans {before middle after : ω} (first : FailsNone before middle)
    (second : FailsNone middle after) : FailsNone before after := fun row member failed =>
  first row (second row member failed) failed

theorem Spares.of_outboxOf {before after : ω} (same : outboxOf after = outboxOf before) :
    Spares before after := by
  constructor
  · rw [FailsNone, same]
    exact fun _ member _ => member
  · simp only [IsPublished, same]
    exact fun _ published => published

theorem Spares.trans {before middle after : ω} (first : Spares before middle)
    (second : Spares middle after) : Spares before after :=
  ⟨first.failsNone.trans second.failsNone, fun id published =>
    second.published id (first.published id published)⟩

/-- The inbox spares the outbox. -/
theorem Program.receive_spares (policy : StalenessPolicy) (parcel : Parcel Unit)
    (world : World Tables) : Spares world (receive policy parcel world).2 :=
  .of_outboxOf (outbox_receive policy parcel world)

/-! ## Marks -/

variable {ι : Type} {entry : OutboxEntry} {state after : Broker ι × ω}

theorem row_of_settle {result : Except BrokerError Unit}
    (settled : Hosts.run (Relay.settle entry result) state = (.ok (), after)) :
    ∃ row ∈ outboxOf state, row.id = entry.id := by
  have written : (Relay.settle entry result (Hosts.world state)).1 = .ok () :=
    congrArg Prod.fst settled
  rw [(settle_apply entry result (Hosts.world state)).1, Tables.mark] at written
  split at written
  · cases written
  · next row found =>
    have named := List.find?_some found
    exact ⟨row, List.mem_of_find?_eq_some found, by simpa using named⟩

/-- When it is written down that the broker took an entry, the entry has a row that is published,
and the other rows are spared. -/
theorem settle_spares (settled : Hosts.run (Relay.settle entry (.ok ())) state = (.ok (), after)) :
    Spares state.2 after.2 ∧ IsPublished entry.id after.2 := by
  have there := row_of_settle settled
  obtain ⟨same, now, settledToo, marked⟩ := settle_of_row there (.ok ())
  obtain rfl : same = after := congrArg Prod.snd (settledToo.symm.trans settled)
  have outbox : outboxOf same.2 = Tables.changeFirst entry.id (·.markPublished now)
    (outboxOf state.2) := marked
  have published : IsPublished entry.id same.2 := by
    obtain ⟨old, -, named, changed⟩ := Tables.exists_changed (·.markPublished now) there
    refine ⟨old.markPublished now, ?_, named, rfl⟩
    rw [outbox]
    exact changed
  refine ⟨⟨fun row member failed => ?_, ?_⟩, published⟩
  · rw [outbox] at member
    rcases Tables.mem_of_mem_changeFirst member with kept | ⟨old, -, -, rfl⟩
    · exact kept
    · cases failed
  · rintro id ⟨row, member, rfl, done⟩
    by_cases other : row.id = entry.id
    · rw [other]
      exact published
    · exact ⟨row, outbox ▸ Tables.mem_changeFirst member other, rfl, done⟩

end Rows

namespace Stopping

variable {ι ω : Type} [Hosts ω Tables] {handle : Broker.Handler ι ω} {plan : LoopPlan}
  (sparing : ∀ parcel shared, Spares shared (handle parcel shared).2)

/-! ## Deliveries -/

section Deliveries

include sparing

theorem deliver_spares (parcel : Parcel ι) (state : Broker ι × ω) :
    Spares state.2 (Broker.deliver handle parcel state).2.2 :=
  (sparing parcel state.2).trans (.of_outboxOf (Broker.outboxOf_deliver handle parcel state))

theorem round_failsNone (parcels : List (Parcel ι)) (state : Broker ι × ω) :
    FailsNone state.2 (Broker.round handle parcels state).2.2 := by
  induction parcels generalizing state with
  | nil => exact .refl _
  | cons parcel rest ih => exact (deliver_spares sparing parcel state).failsNone.trans (ih _)

theorem send_failsNone (envelope : Envelope) (state : Broker ι × ω) :
    FailsNone state.2 (Broker.send handle envelope state).2.2 := by
  obtain ⟨broker, shared⟩ := state
  rcases taken : broker.accept envelope with error | ⟨accepted, parcels⟩
  · simp only [Broker.send, taken]
    exact .refl _
  · simp only [Broker.send, taken]
    exact round_failsNone sparing parcels (accepted, shared)

end Deliveries

/-! ## The loop -/

variable {state after : Broker ι × ω} {place next : Place ι} {more : List Note}

/-- What is noted as written down has a row that is published, if the broker took it. -/
theorem Advance.isPublished (advance : Advance handle plan state place more after next)
    {entry : OutboxEntry} (marked : .marked entry (.ok ()) ∈ more) :
    IsPublished entry.id after.2 := by
  cases advance with
  | mark settled =>
    obtain ⟨rfl, rfl⟩ := Note.marked.inj (List.mem_singleton.mp marked)
    exact (settle_spares settled).2
  | poll | pollFails | refused | delivered | lose | finish => simp at marked
  | begin | breakDown | prune | hand | attempt => cases marked

section Sparing

variable (marked : AllMarked more) (taken : ∀ entry error, .marked entry (.error error) ∉ more)
include sparing marked taken

/-- Within a pass the loop spares the rows. -/
theorem Advance.spares (advance : Advance handle plan state place more after next)
    (within : place.IsWithin) : Spares state.2 after.2 := by
  cases advance with
  | begin | breakDown | poll | pollFails | prune => exact within.elim
  | hand | refused | delivered | finish => exact .of_outboxOf rfl
  | @attempt _ _ _ _ parcel _ _ _ delivered =>
    obtain rfl : (Broker.deliver handle parcel state).2 = after := congrArg Prod.snd delivered
    exact deliver_spares sparing parcel state
  | @mark _ _ entry result _ settled =>
    cases result with
    | ok _ => exact (settle_spares settled).1
    | error error => exact absurd List.mem_cons_self (taken entry error)
  | lose => exact absurd List.mem_cons_self (marked _ _)

/-- Between two passes it marks nothing, either. -/
theorem Advance.failsNone (advance : Advance handle plan state place more after next) :
    FailsNone state.2 after.2 := by
  by_cases within : place.IsWithin
  · exact (advance.spares sparing marked taken within).failsNone
  · cases advance with
    | begin | breakDown => exact .refl _
    | poll fetched | pollFails fetched =>
      rw [run_fetch] at fetched
      obtain rfl := congrArg Prod.snd fetched
      exact .refl _
    | prune _ pruned =>
      obtain rfl := congrArg Prod.snd pruned
      rcases ran : plan.relay.prune (Hosts.world state) with ⟨count, left⟩
      obtain ⟨-, earlier, -⟩ := prune_spares ran
      intro row member _
      have there : row ∈ outboxOf (Hosts.run plan.relay.prune state).2 := member
      simp only [outboxOf, Hosts.run, ran, Hosts.world_withWorld] at there
      exact earlier row there
    | hand | refused | attempt | delivered | mark | lose | finish => exact absurd trivial within

/-- A loop that is busy spares the rows, and has published what it noted. -/
theorem Busy.spares (busy : Busy handle plan state place more after next) :
    Spares state.2 after.2 ∧
      ∀ entry, .marked entry (.ok ()) ∈ more → IsPublished entry.id after.2 := by
  induction busy with
  | refl => exact ⟨.of_outboxOf rfl, by rintro _ ⟨⟩⟩
  | step within advance _ ih =>
    have now := advance.spares sparing
      (fun entry error member => marked entry error (List.mem_append_left _ member))
      (fun entry error member => taken entry error (List.mem_append_left _ member)) within
    obtain ⟨onward, published⟩ := ih
      (fun entry error member => marked entry error (List.mem_append_right _ member))
      (fun entry error member => taken entry error (List.mem_append_right _ member))
    refine ⟨now.trans onward, fun entry member => ?_⟩
    rcases List.mem_append.mp member with here | later
    · exact onward.published _ (advance.isPublished here)
    · exact published entry later

end Sparing

/-- As long as no refusal is written down, no row is marked as failed, whatever happens. -/
theorem failsNone_of_steps {others : Broker ι × ω → Broker ι × ω → Prop}
    (sparing : ∀ parcel shared, Spares shared (handle parcel shared).2)
    (among : ∀ state after, others state after → FailsNone state.2 after.2)
    {situation later : Situation ι ω} (steps : LoopSteps handle plan others situation later)
    (marked : AllMarked later.notes)
    (taken : ∀ entry error, .marked entry (.error error) ∉ later.notes) :
    FailsNone situation.state.2 later.state.2 := by
  induction steps with
  | refl => exact .refl _
  | tail _ step ih =>
    have earlier := ih (fun entry error member => marked entry error (step.notes_subset member))
      fun entry error member => taken entry error (step.notes_subset member)
    refine earlier.trans ?_
    cases step with
    | advance advance =>
      exact advance.failsNone sparing
        (fun entry error member => marked entry error (List.mem_append_right _ member))
        fun entry error member => taken entry error (List.mem_append_right _ member)
    | work works _ _ => exact among _ _ works
    | look | stay | leave | abandon | tell | drop | shutDown | close => exact .refl _

end Stopping
end Fieldwatch
