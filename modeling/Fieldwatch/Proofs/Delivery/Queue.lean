import Mathlib.Order.Lattice
import Fieldwatch.Proofs.Delivery.Attempts
import Fieldwatch.Proofs.Time.Apart

/-!
# The queue of a pass

The entries still to be published stand in a queue: the oldest first and, where several were staged
at one time, in the order of their rows. A pass takes the front of it.
-/
namespace Fieldwatch

/-! ## Sorting by a key -/

section Sorting

variable {α κ : Type} {list : List α}

theorem pair_sublist_of_getElem? {first later : Nat} {a b : α} (before : first < later)
    (here : list[first]? = some a) (there : list[later]? = some b) : [a, b].Sublist list := by
  have front : a ∈ list.take later := by
    refine List.mem_of_getElem? (i := first) ?_
    rw [List.getElem?_take_of_lt before, here]
  have back : b ∈ list.drop later := by
    refine List.mem_of_getElem? (i := 0) ?_
    rw [List.getElem?_drop, Nat.add_zero, there]
  rw [← List.take_append_drop later list]
  exact (List.singleton_sublist.mpr front).append (List.singleton_sublist.mpr back)

/-- Sorting by a key leaves those of one key in the order in which they stood. -/
theorem pairwise_mergeSort_key [LinearOrder κ] (key : α → κ) (list : List α) :
    (list.mergeSort fun a b => key a ≤ key b).Pairwise fun a b =>
      key a < key b ∨ key a = key b ∧ [a, b].Sublist list := by
  have trans (a b c : α) : decide (key a ≤ key b) = true → decide (key b ≤ key c) = true →
      decide (key a ≤ key c) = true := by
    simpa using fun low high => le_trans low high
  have total (a b : α) : (decide (key a ≤ key b) || decide (key b ≤ key a)) = true := by
    simpa using le_total (key a) (key b)
  -- sorted together with the places, of which no two are the same
  have ordered := List.pairwise_mergeSort (List.zipIdxLE_trans trans) (List.zipIdxLE_total total)
    list.zipIdx
  have placed := List.mergeSort_perm list.zipIdx (List.zipIdxLE fun a b => key a ≤ key b)
  have places : (list.zipIdx.map Prod.snd).Nodup := by
    rw [List.zipIdx_map_snd]
    exact List.nodup_range'
  have apart := List.pairwise_map.mp ((placed.map Prod.snd).nodup_iff.mpr places)
  rw [← List.mergeSort_zipIdx, List.pairwise_map]
  refine (ordered.and apart).imp_of_mem ?_
  rintro ⟨a, first⟩ ⟨b, later⟩ here there ⟨least, other⟩
  have here := List.mk_mem_zipIdx_iff_getElem?.mp (placed.mem_iff.mp here)
  have there := List.mk_mem_zipIdx_iff_getElem?.mp (placed.mem_iff.mp there)
  simp only [List.zipIdxLE, decide_eq_true_eq] at least other
  split at least
  · next below =>
    split at least
    · next above =>
      have before : first < later := Nat.lt_of_le_of_ne (of_decide_eq_true least) other
      exact .inr ⟨le_antisymm below above, pair_sublist_of_getElem? before here there⟩
    · next above => exact .inl (not_le.mp above)
  · cases least

end Sorting

/-! ## The queue -/

/-- Whether entries are those of an outbox that are still to be published, the oldest first and of
those staged at one time the one whose row comes first. -/
structure IsQueue (outbox : List OutboxEntry) (most : UInt32) (queue : List OutboxEntry) :
    Prop where
  perm : queue.Perm
    (outbox.filter fun entry => entry.status ≠ .published ∧ entry.attempts < most)
  ordered : queue.Pairwise fun first later => first.createdAt < later.createdAt ∨
    first.createdAt = later.createdAt ∧ [first, later].Sublist outbox

/-- What is fetched is the front of the queue. -/
theorem Tables.unpublished_front (tables : Tables) (most : UInt32) :
    ∃ queue, IsQueue tables.outbox most queue ∧
      ∀ limit, tables.unpublished limit most = queue.take limit.toNat := by
  refine ⟨_, ⟨?_, ?_⟩, fun limit => rfl⟩
  · refine (List.mergeSort_perm _ _).trans (List.Perm.of_eq (List.filter_congr fun entry _ => ?_))
    simp [OutboxEntry.isDeliverable]
  · refine (pairwise_mergeSort_key OutboxEntry.createdAt _).imp ?_
    rintro first later (older | ⟨same, before⟩)
    · exact .inl older
    · exact .inr ⟨same, before.trans List.filter_sublist⟩

end Fieldwatch
