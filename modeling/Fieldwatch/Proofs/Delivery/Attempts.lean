import Mathlib.Algebra.GroupWithZero.Nat
import Mathlib.Data.List.Forall2
import Mathlib.Data.List.Nodup
import Fieldwatch.Proofs.Broker.Courses
import Fieldwatch.Proofs.Delivery.Passes

/-!
# Attempts

A pass makes one attempt for each entry that it took. Every attempt uses up one of those which its
entry has left, whatever the answer, so the attempts of all entries together run out; an entry that
was taken has none left, and one that was refused has one less.
-/
namespace Fieldwatch

/-- How many attempts may still be made to publish an entry. -/
def OutboxEntry.attemptsLeft (most : UInt32) (entry : OutboxEntry) : Nat :=
  if entry.isDeliverable most then most.toNat - entry.attempts.toNat else 0

namespace Delivery

/-- How many attempts may still be made for all entries together. -/
def backlog (most : UInt32) (outbox : List OutboxEntry) : Nat :=
  (outbox.map (OutboxEntry.attemptsLeft most)).sum

/-- An entry that was handed to the publisher, and the answer. -/
structure Attempt where
  entry : OutboxEntry
  result : Except BrokerError Unit

/-- How many of the attempts were for the entry of an identifier. -/
def tries (made : List Attempt) (id : EntryId) : Nat :=
  made.countP fun attempt => attempt.entry.id = id

/-- How many of the attempts for the entry of an identifier the publisher took. -/
def takes (made : List Attempt) (id : EntryId) : Nat :=
  made.countP fun attempt => attempt.entry.id = id ∧ attempt.result.isOk

section Entries

variable {most : UInt32} {made : List Attempt} {entry old new : OutboxEntry}

theorem tries_append_singleton (made : List Attempt) (attempt : Attempt) (id : EntryId) :
    tries (made ++ [attempt]) id = tries made id + if attempt.entry.id = id then 1 else 0 := by
  simp [tries, List.countP_append, List.countP_singleton]

theorem takes_append_singleton (made : List Attempt) (attempt : Attempt) (id : EntryId) :
    takes (made ++ [attempt]) id =
      takes made id + if attempt.entry.id = id ∧ attempt.result.isOk then 1 else 0 := by
  simp [takes, List.countP_append, List.countP_singleton]

theorem takes_le_tries (made : List Attempt) (id : EntryId) : takes made id ≤ tries made id := by
  refine List.countP_mono_left fun attempt _ taken => ?_
  simp only [decide_eq_true_eq] at taken ⊢
  exact taken.1

theorem isDeliverable_iff :
    entry.isDeliverable most = true ↔
      entry.status ≠ .published ∧ entry.attempts.toNat < most.toNat := by
  simp [OutboxEntry.isDeliverable, UInt32.lt_iff_toNat_lt]

theorem backlog_eq_zero_iff {outbox : List OutboxEntry} :
    backlog most outbox = 0 ↔ ∀ entry ∈ outbox, entry.isDeliverable most = false := by
  simp only [backlog, List.sum_eq_zero_iff_forall_eq_nat, List.forall_mem_map]
  refine forall₂_congr fun entry member => ?_
  unfold OutboxEntry.attemptsLeft
  by_cases deliverable : entry.isDeliverable most
  · obtain ⟨-, few⟩ := isDeliverable_iff.mp deliverable
    rw [if_pos deliverable, deliverable]
    simp only [Bool.true_eq_false, iff_false]
    omega
  · simp [deliverable]

theorem toNat_attempts_answered (deliverable : entry.isDeliverable most)
    (result : Except BrokerError Unit) (now : Instant) :
    (answered result now entry).attempts.toNat = entry.attempts.toNat + 1 := by
  obtain ⟨-, few⟩ := isDeliverable_iff.mp deliverable
  have counted : (answered result now entry).attempts = entry.attempts + 1 := by
    cases result <;> rfl
  rw [counted]
  exact toNat_add_one_of_lt (UInt32.lt_iff_toNat_lt.mpr few)

theorem attemptsLeft_answered (deliverable : entry.isDeliverable most)
    (result : Except BrokerError Unit) (now : Instant) :
    (answered result now entry).attemptsLeft most + 1 ≤ entry.attemptsLeft most := by
  have counted := toNat_attempts_answered deliverable result now
  obtain ⟨-, few⟩ := isDeliverable_iff.mp deliverable
  unfold OutboxEntry.attemptsLeft
  rw [if_pos deliverable]
  split <;> omega

/-- What attempts make of an entry: each is counted, none is made beyond those left, and the entry
is published when one of them is taken, which is the last. -/
structure Advanced (most : UInt32) (made : List Attempt) (old new : OutboxEntry) : Prop where
  id_eq : new.id = old.id
  envelope_eq : new.envelope = old.envelope
  createdAt_eq : new.createdAt = old.createdAt
  attempts_eq : new.attempts.toNat = old.attempts.toNat + tries made old.id
  within : tries made old.id + new.attemptsLeft most ≤ old.attemptsLeft most
  published_iff : new.status = .published ↔ old.status = .published ∨ 0 < takes made old.id
  once : takes made old.id ≤ 1

theorem Advanced.refl (most : UInt32) (entry : OutboxEntry) : Advanced most [] entry entry where
  id_eq := rfl
  envelope_eq := rfl
  createdAt_eq := rfl
  attempts_eq := rfl
  within := by simp [tries]
  published_iff := by simp [takes]
  once := by simp [takes]

theorem Advanced.other (advanced : Advanced most made old new) {attempt : Attempt}
    (apart : attempt.entry.id ≠ old.id) : Advanced most (made ++ [attempt]) old new := by
  have tried : tries (made ++ [attempt]) old.id = tries made old.id := by
    rw [tries_append_singleton, if_neg apart, Nat.add_zero]
  have taken : takes (made ++ [attempt]) old.id = takes made old.id := by
    rw [takes_append_singleton, if_neg fun both => apart both.1, Nat.add_zero]
  constructor
  · exact advanced.id_eq
  · exact advanced.envelope_eq
  · exact advanced.createdAt_eq
  · rw [tried]; exact advanced.attempts_eq
  · rw [tried]; exact advanced.within
  · rw [taken]; exact advanced.published_iff
  · rw [taken]; exact advanced.once

/-- An attempt for this entry, when it is still to be published. -/
theorem Advanced.answered (advanced : Advanced most made old new)
    (deliverable : new.isDeliverable most) (result : Except BrokerError Unit) (now : Instant) :
    Advanced most (made ++ [⟨new, result⟩]) old (answered result now new) := by
  have same := advanced.id_eq
  have tried : tries (made ++ [⟨new, result⟩]) old.id = tries made old.id + 1 := by
    rw [tries_append_singleton, if_pos same]
  have taken : takes (made ++ [⟨new, result⟩]) old.id =
      takes made old.id + if result.isOk then 1 else 0 := by
    rw [takes_append_singleton]
    simp [same]
  -- what was taken before would not be delivered again
  obtain ⟨unpublished, -⟩ := isDeliverable_iff.mp deliverable
  rw [ne_eq, advanced.published_iff, not_or] at unpublished
  obtain ⟨fresh, never⟩ := unpublished
  have counted := toNat_attempts_answered deliverable result now
  have used := attemptsLeft_answered deliverable result now
  have before := advanced.attempts_eq
  have within := advanced.within
  constructor
  · cases result <;> exact same
  · cases result <;> exact advanced.envelope_eq
  · cases result <;> exact advanced.createdAt_eq
  · omega
  · omega
  · rw [taken]
    cases result with
    | ok _ => simp [Delivery.answered, OutboxEntry.markPublished, Except.isOk, Except.toBool]
    | error error =>
      simp [Delivery.answered, OutboxEntry.markFailed, Except.isOk, Except.toBool, fresh, never]
  · rw [taken]
    split <;> omega

end Entries

/-! ## The outbox -/

section Outbox

variable {most : UInt32} {made : List Attempt} {before outbox : List OutboxEntry}
  {entry : OutboxEntry} {change : OutboxEntry → OutboxEntry}

/-- What holds of every pair of rows still holds when a row was changed, if it does of that row and
of those with other identifiers. -/
theorem forall₂_changeFirst {related later : OutboxEntry → OutboxEntry → Prop} {id : EntryId}
    (rows : List.Forall₂ related before outbox) (distinct : (before.map OutboxEntry.id).Nodup)
    (same : ∀ old new, related old new → new.id = old.id)
    (hit : ∀ old, ∀ new ∈ outbox, related old new → old.id = id → later old (change new))
    (miss : ∀ old new, related old new → old.id ≠ id → later old new) :
    List.Forall₂ later before (Tables.changeFirst id change outbox) := by
  induction rows with
  | nil => exact .nil
  | @cons old new before outbox here rows ih =>
    obtain ⟨alone, distinct⟩ := List.nodup_cons.mp distinct
    rw [Tables.changeFirst, same old new here]
    by_cases found : old.id = id
    · rw [if_pos found]
      refine .cons (hit old new List.mem_cons_self here found) ?_
      have apart : ∀ row ∈ before, row.id ≠ id :=
        fun row member equal => alone (found.trans equal.symm ▸ List.mem_map_of_mem member)
      refine ((List.forall₂_and_left before outbox).mpr ⟨apart, rows⟩).imp ?_
      rintro old new ⟨other, here⟩
      exact miss old new here other
    · rw [if_neg found]
      exact .cons (miss old new here found) (ih distinct fun old new member =>
        hit old new (List.mem_cons_of_mem _ member))

theorem backlog_changeFirst (there : entry ∈ outbox)
    (distinct : (outbox.map OutboxEntry.id).Nodup)
    (less : (change entry).attemptsLeft most + 1 ≤ entry.attemptsLeft most) :
    backlog most (Tables.changeFirst entry.id change outbox) + 1 ≤ backlog most outbox := by
  induction outbox with
  | nil => cases there
  | cons head rest ih =>
    obtain ⟨alone, distinct⟩ := List.nodup_cons.mp distinct
    rw [Tables.changeFirst]
    rcases List.mem_cons.mp there with rfl | later
    · rw [if_pos rfl]
      simp only [backlog, List.map_cons, List.sum_cons]
      omega
    · have apart : head.id ≠ entry.id := fun same => alone (same ▸ List.mem_map_of_mem later)
      rw [if_neg apart]
      have rest := ih later distinct
      simp only [backlog, List.map_cons, List.sum_cons] at rest ⊢
      omega

/-- What attempts make of an outbox: each is for one of its rows, and there are no more of them than
the attempts that are used up. -/
structure Progress (most : UInt32) (before : List OutboxEntry) (made : List Attempt)
    (after : List OutboxEntry) : Prop where
  rows : List.Forall₂ (Advanced most made) before after
  named : ∀ attempt ∈ made, ∃ row ∈ before, row.id = attempt.entry.id ∧
    row.envelope = attempt.entry.envelope
  used : made.length + backlog most after ≤ backlog most before

theorem Progress.refl (most : UInt32) (outbox : List OutboxEntry) :
    Progress most outbox [] outbox where
  rows := List.forall₂_same.mpr fun entry _ => .refl most entry
  named := by rintro _ ⟨⟩
  used := by simp

theorem Progress.carried (progress : Progress most before made outbox) :
    (outbox.map fun row => (row.id, row.envelope)) =
      before.map fun row => (row.id, row.envelope) := by
  have rows := progress.rows
  clear progress
  induction rows with
  | nil => rfl
  | cons here rows ih => rw [List.map_cons, List.map_cons, here.id_eq, here.envelope_eq, ih]

theorem Progress.ids (progress : Progress most before made outbox) :
    outbox.map OutboxEntry.id = before.map OutboxEntry.id := by
  simpa [List.map_map, Function.comp_def] using congrArg (List.map Prod.fst) progress.carried

theorem Progress.row (progress : Progress most before made outbox) (there : entry ∈ before) :
    ∃ row ∈ outbox, Advanced most made entry row := by
  have rows := progress.rows
  clear progress
  induction rows with
  | nil => cases there
  | cons here rows ih =>
    rcases List.mem_cons.mp there with rfl | later
    · exact ⟨_, List.mem_cons_self, here⟩
    · obtain ⟨row, kept, advanced⟩ := ih later
      exact ⟨row, List.mem_cons_of_mem _ kept, advanced⟩

/-- A row that is still to be published is attempted, and the answer written down on it. -/
theorem Progress.attempt (progress : Progress most before made outbox)
    (distinct : (before.map OutboxEntry.id).Nodup) (there : entry ∈ outbox)
    (deliverable : entry.isDeliverable most) (result : Except BrokerError Unit) (now : Instant) :
    Progress most before (made ++ [⟨entry, result⟩])
      (Tables.changeFirst entry.id (answered result now) outbox) := by
  have still : (outbox.map OutboxEntry.id).Nodup := progress.ids ▸ distinct
  constructor
  · refine forall₂_changeFirst progress.rows distinct (fun old new advanced => advanced.id_eq) ?_ ?_
    · intro old new member advanced same
      obtain rfl : new = entry :=
        List.inj_on_of_nodup_map still member there (advanced.id_eq.trans same)
      exact advanced.answered deliverable result now
    · intro old new advanced other
      exact advanced.other (Ne.symm other)
  · intro attempt member
    rcases List.mem_append.mp member with earlier | last
    · exact progress.named attempt earlier
    · obtain rfl := List.mem_singleton.mp last
      have listed := List.mem_map_of_mem (f := fun row => (row.id, row.envelope)) there
      rw [progress.carried] at listed
      obtain ⟨old, known, same⟩ := List.mem_map.mp listed
      exact ⟨old, known, congrArg Prod.fst same, congrArg Prod.snd same⟩
  · have less := backlog_changeFirst there still
      (attemptsLeft_answered deliverable result now)
    have used := progress.used
    simp only [List.length_append, List.length_singleton]
    omega

end Outbox
end Delivery

/-! ## What a pass takes -/

namespace Tables

open Delivery (backlog backlog_eq_zero_iff)

variable {tables : Tables} {limit : UInt64} {most : UInt32} {entry : OutboxEntry}

theorem isDeliverable_of_mem_unpublished (fetched : entry ∈ tables.unpublished limit most) :
    entry.isDeliverable most = true := by
  have sorted := List.mem_of_mem_take fetched
  exact (List.mem_filter.mp (List.mem_mergeSort.mp sorted)).2

theorem nodup_unpublished (distinct : (tables.outbox.map OutboxEntry.id).Nodup) (limit : UInt64)
    (most : UInt32) : ((tables.unpublished limit most).map OutboxEntry.id).Nodup := by
  have deliverable : ((tables.outbox.filter fun entry => entry.isDeliverable most).map
      OutboxEntry.id).Nodup := distinct.sublist (List.filter_sublist.map _)
  have sorted := ((List.mergeSort_perm _ fun a b => a.createdAt ≤ b.createdAt).map
    OutboxEntry.id).nodup_iff.mpr deliverable
  exact sorted.sublist ((List.take_sublist _ _).map _)

/-- A pass that may take entries takes none only when there is nothing to attempt. -/
theorem unpublished_eq_nil_iff (some : 0 < limit) :
    tables.unpublished limit most = [] ↔ backlog most tables.outbox = 0 := by
  have positive : limit.toNat ≠ 0 := by
    have := UInt64.lt_iff_toNat_lt.mp some
    simp only [UInt64.toNat_zero] at this
    omega
  rw [backlog_eq_zero_iff, unpublished, List.take_eq_nil_iff, or_iff_right positive,
    ← List.length_eq_zero_iff, List.length_mergeSort, List.length_eq_zero_iff,
    List.filter_eq_nil_iff]
  simp

end Tables
end Fieldwatch
