import Mathlib.Tactic.ByContra
import Fieldwatch.Ingest.Staging
import Fieldwatch.Proofs.Frame
import Fieldwatch.Proofs.Id.Drawn
import Fieldwatch.Proofs.Store.Commit

/-!
# Rows of the outbox

What a commit, a mark and a prune do to the rows of the outbox. A commit appends some of the
entries that were staged; a mark touches the delivery of one row and nothing else; a prune drops
published rows only.
-/
namespace Fieldwatch

/-- New entries for envelopes are staged in their order, under identifiers drawn one by one. -/
theorem ChangeSet.foldlM_stageEnvelope {σ ε : Type} (changes : ChangeSet)
    (envelopes : List Envelope) (world : World σ) :
    ∃ entries after,
      (envelopes.foldlM ChangeSet.stageEnvelope changes : Task σ ε ChangeSet) world =
        (.ok { changes with outbox := changes.outbox ++ entries }, after) ∧
      world.Follows after ∧ after.store = world.store ∧
      entries.map OutboxEntry.envelope = envelopes ∧
      (∀ entry ∈ entries, entry.status = .pending) ∧
      DrawnInOrder world.ids.draw world.ids.used after.ids.used
        (entries.map fun entry => entry.id.value) := by
  induction envelopes generalizing changes world with
  | nil =>
    refine ⟨[], world, ?_, .refl world, rfl, rfl, by rintro _ ⟨⟩, .nil _ _ _⟩
    rw [List.append_nil]
    rfl
  | cons envelope rest ih =>
    have staged : (changes.stageEnvelope envelope : Task σ ε ChangeSet) world =
        (.ok (changes.enqueue (.new (world.ids.peek 0 .entry) envelope world.now.time)),
          { world with
            now := world.now.next
            ids := { world.ids with used := world.ids.used + 1 } }) := rfl
    obtain ⟨entries, after, ran, follows, kept, carried, pending, drawn⟩ := ih
      (changes.enqueue (.new (world.ids.peek 0 .entry) envelope world.now.time))
      { world with now := world.now.next, ids := { world.ids with used := world.ids.used + 1 } }
    have on : world.ids.used + 1 ≤ after.ids.used := follows.used
    refine ⟨.new (world.ids.peek 0 .entry) envelope world.now.time :: entries, after, ?_,
      ⟨follows.draw, by omega⟩, kept, ?_, ?_, ?_⟩
    · rw [List.foldlM_cons, Task.bind_of_ok staged, ran, enqueue, List.append_assoc]
      rfl
    · rw [List.map_cons, carried]
      rfl
    · intro entry member
      rcases List.mem_cons.mp member with rfl | later
      · rfl
      · exact pending entry later
    · have here : DrawnInOrder world.ids.draw world.ids.used (world.ids.used + 1)
          [world.ids.draw world.ids.used] := .singleton (Nat.le_refl _) (by omega)
      exact here.append drawn (by omega) on

namespace Tables

variable {tables after : Tables}

/-- Whether every event that is remembered has its row. -/
def Remembers (outbox : List OutboxEntry) (ids : List EventId) : Prop :=
  ∀ id ∈ ids, ∃ row ∈ outbox, row.envelope.eventId = id

/-! ## Commits -/

/-- A commit that succeeds appends the entries of new events to the outbox, and remembers them. -/
theorem entries_commit {changes : ChangeSet} {receipt : CommitReceipt}
    (committed : tables.commit changes = (.ok receipt, after)) :
    let added := firstOfKey (fun entry => entry.envelope.eventId) tables.eventIds changes.outbox
    after.outbox = tables.outbox ++ added ∧
      after.eventIds = tables.eventIds ++ added.map fun entry => entry.envelope.eventId := by
  obtain ⟨-, -, applied⟩ := commit_eq_ok committed
  obtain rfl : (tables.applied changes).1 = after := congrArg Prod.fst applied
  have entries := foldl_addEntry tables.outbox changes.outbox tables.eventIds
  exact ⟨congrArg Prod.fst entries, congrArg (fun answer => answer.2.1) entries⟩

/-- What it appends are some of the staged entries, in their order. -/
theorem outbox_commit {changes : ChangeSet} {receipt : CommitReceipt}
    (committed : tables.commit changes = (.ok receipt, after)) :
    ∃ added, added.Sublist changes.outbox ∧ after.outbox = tables.outbox ++ added :=
  ⟨_, sublist_firstOfKey _ _ _, (entries_commit committed).1⟩

/-- After a commit that succeeds, the event of each staged entry has a row. -/
theorem remembers_commit {changes : ChangeSet} {receipt : CommitReceipt}
    (remembered : Remembers tables.outbox tables.eventIds)
    (committed : tables.commit changes = (.ok receipt, after)) :
    Remembers after.outbox after.eventIds ∧
      ∀ entry ∈ changes.outbox, entry.envelope.eventId ∈ after.eventIds := by
  obtain ⟨outbox, eventIds⟩ := entries_commit committed
  rw [outbox, eventIds]
  constructor
  · intro id member
    rcases List.mem_append.mp member with old | new
    · obtain ⟨row, there, same⟩ := remembered id old
      exact ⟨row, List.mem_append_left _ there, same⟩
    · obtain ⟨entry, added, same⟩ := List.mem_map.mp new
      exact ⟨entry, List.mem_append_right _ added, same⟩
  · exact fun entry member => (mem_keys_firstOfKey _ _ _ _).mpr
      (List.mem_append_right _ (List.mem_map_of_mem member))

/-! ## Marks -/

/-- Whether an outbox is an earlier one with at most the delivery of a row of one identifier
changed, and that to published only if the broker took it. -/
structure Marked (id : EntryId) (taken : Prop) (before after : List OutboxEntry) : Prop where
  old : ∀ row ∈ after, row ∈ before ∨ ∃ old ∈ before, old.id = id ∧ row.id = id ∧
    row.envelope = old.envelope ∧ (row.status = .published → taken)
  kept : ∀ row ∈ before, ∃ left ∈ after, left.id = row.id ∧ left.envelope = row.envelope

theorem Marked.refl (id : EntryId) (taken : Prop) (outbox : List OutboxEntry) :
    Marked id taken outbox outbox :=
  ⟨fun _ member => .inl member, fun row member => ⟨row, member, rfl, rfl⟩⟩

/-- What a change keeps of a row, it keeps of every row. -/
theorem map_changeFirst {α : Type} {view : OutboxEntry → α} {change : OutboxEntry → OutboxEntry}
    (id : EntryId) (same : ∀ row, view (change row) = view row) (outbox : List OutboxEntry) :
    (changeFirst id change outbox).map view = outbox.map view := by
  induction outbox with
  | nil => rfl
  | cons head rest ih =>
    rw [changeFirst]
    split
    · rw [List.map_cons, same, List.map_cons]
    · rw [List.map_cons, ih, List.map_cons]

/-- A change leaves the rows of other identifiers. -/
theorem mem_changeFirst {id : EntryId} {change : OutboxEntry → OutboxEntry}
    {outbox : List OutboxEntry} {row : OutboxEntry} (there : row ∈ outbox) (other : row.id ≠ id) :
    row ∈ changeFirst id change outbox := by
  induction outbox with
  | nil => cases there
  | cons head rest ih =>
    rw [changeFirst]
    rcases List.mem_cons.mp there with rfl | later
    · rw [if_neg other]
      exact List.mem_cons_self
    · split
      · exact List.mem_cons_of_mem _ later
      · exact List.mem_cons_of_mem _ (ih later)

/-- A row after a change is an earlier one, or what became of one of the identifier. -/
theorem mem_of_mem_changeFirst {id : EntryId} {change : OutboxEntry → OutboxEntry}
    {outbox : List OutboxEntry} {row : OutboxEntry} (member : row ∈ changeFirst id change outbox) :
    row ∈ outbox ∨ ∃ old ∈ outbox, old.id = id ∧ row = change old := by
  induction outbox with
  | nil => cases member
  | cons head rest ih =>
    rw [changeFirst] at member
    split at member
    · next here =>
      rcases List.mem_cons.mp member with rfl | later
      · exact .inr ⟨head, List.mem_cons_self, here, rfl⟩
      · exact .inl (List.mem_cons_of_mem _ later)
    · rcases List.mem_cons.mp member with rfl | later
      · exact .inl List.mem_cons_self
      · rcases ih later with there | ⟨old, there, changed⟩
        · exact .inl (List.mem_cons_of_mem _ there)
        · exact .inr ⟨old, List.mem_cons_of_mem _ there, changed⟩

/-- Where there is a row of the identifier, one is changed. -/
theorem exists_changed {id : EntryId} (change : OutboxEntry → OutboxEntry)
    {outbox : List OutboxEntry} (there : ∃ row ∈ outbox, row.id = id) :
    ∃ old ∈ outbox, old.id = id ∧ change old ∈ changeFirst id change outbox := by
  induction outbox with
  | nil =>
    obtain ⟨row, member, -⟩ := there
    cases member
  | cons head rest ih =>
    rw [changeFirst]
    split
    · next here => exact ⟨head, List.mem_cons_self, here, List.mem_cons_self⟩
    · next other =>
      obtain ⟨row, member, same⟩ := there
      have later : row ∈ rest := (List.mem_cons.mp member).resolve_left fun first =>
        other (first ▸ same)
      obtain ⟨old, among, named, changed⟩ := ih ⟨row, later, same⟩
      exact ⟨old, List.mem_cons_of_mem _ among, named, List.mem_cons_of_mem _ changed⟩

/-- A change of the delivery of the first row of an identifier marks it. -/
theorem marked_changeFirst {id : EntryId} {taken : Prop} {change : OutboxEntry → OutboxEntry}
    (same : ∀ row, (change row).id = row.id ∧ (change row).envelope = row.envelope)
    (published : ∀ row, (change row).status = .published → taken) (outbox : List OutboxEntry) :
    Marked id taken outbox (changeFirst id change outbox) := by
  constructor
  · intro row member
    rcases mem_of_mem_changeFirst member with there | ⟨old, there, named, rfl⟩
    · exact .inl there
    · obtain ⟨sameId, sameEnvelope⟩ := same old
      exact .inr ⟨old, there, named, sameId.trans named, sameEnvelope, published old⟩
  · intro row member
    have kept : (changeFirst id change outbox).map (fun row => (row.id, row.envelope)) =
        outbox.map fun row => (row.id, row.envelope) :=
      map_changeFirst id (fun row => Prod.ext (same row).1 (same row).2) outbox
    have there : (row.id, row.envelope) ∈ (changeFirst id change outbox).map fun row =>
        (row.id, row.envelope) := kept ▸ List.mem_map_of_mem member
    obtain ⟨left, among, carried⟩ := List.mem_map.mp there
    exact ⟨left, among, congrArg Prod.fst carried, congrArg Prod.snd carried⟩

/-- A mark that finds its row changes the first of that identifier; one that does not changes
nothing. -/
theorem marked_mark {id : EntryId} {taken : Prop} (change : OutboxEntry → OutboxEntry)
    (same : ∀ row, (change row).id = row.id ∧ (change row).envelope = row.envelope)
    (published : ∀ row, (change row).status = .published → taken) (tables : Tables) :
    Marked id taken tables.outbox (tables.mark id change).2.outbox := by
  unfold mark
  split
  · exact .refl _ _ _
  · exact marked_changeFirst same published tables.outbox

theorem eventIds_mark (id : EntryId) (change : OutboxEntry → OutboxEntry) (tables : Tables) :
    (tables.mark id change).2.eventIds = tables.eventIds := by
  unfold mark
  split <;> rfl

/-- What is remembered of an outbox is remembered of a marked one. -/
theorem Marked.remembers {id : EntryId} {taken : Prop} {before after : List OutboxEntry}
    {ids : List EventId} (marked : Marked id taken before after)
    (remembered : Remembers before ids) : Remembers after ids := by
  intro id member
  obtain ⟨row, there, same⟩ := remembered id member
  obtain ⟨left, kept, -, carried⟩ := marked.kept row there
  exact ⟨left, kept, (congrArg Envelope.eventId carried).trans same⟩

/-! ## Fetches and prunes -/

/-- The entries that are fetched are rows of the outbox. -/
theorem mem_of_mem_unpublished {limit : UInt64} {maxAttempts : UInt32} {entry : OutboxEntry}
    (fetched : entry ∈ tables.unpublished limit maxAttempts) : entry ∈ tables.outbox := by
  have sorted := List.mem_of_mem_take fetched
  exact (List.mem_filter.mp (List.mem_mergeSort.mp sorted)).1

/-- A prune leaves rows of the outbox, and all that are not published. -/
theorem mem_outbox_prune (tables : Tables) (retention : Nat) (now : Instant) (row : OutboxEntry) :
    (row ∈ (tables.prune retention now).2.outbox → row ∈ tables.outbox) ∧
      (row ∈ tables.outbox → row.status ≠ .published →
        row ∈ (tables.prune retention now).2.outbox) := by
  unfold prune
  split
  · exact ⟨id, fun member _ => member⟩
  · next cutoff _ =>
    constructor
    · intro member
      exact (List.mem_filter.mp member).1
    · intro member unpublished
      refine List.mem_filter.mpr ⟨member, ?_⟩
      simp [OutboxEntry.publishedBefore, unpublished]

/-- A prune forgets the events of the rows that it drops. -/
theorem remembers_prune (remembered : Remembers tables.outbox tables.eventIds) (retention : Nat)
    (now : Instant) : Remembers (tables.prune retention now).2.outbox
      (tables.prune retention now).2.eventIds := by
  unfold prune
  split
  · exact remembered
  · next cutoff _ =>
    intro id member
    obtain ⟨known, spared⟩ := List.mem_filter.mp member
    obtain ⟨row, there, same⟩ := remembered id known
    refine ⟨row, List.mem_filter.mpr ⟨there, ?_⟩, same⟩
    by_contra dropped
    have expired : row.publishedBefore cutoff = true := by simpa using dropped
    have forgotten : ((tables.outbox.filter fun entry => entry.publishedBefore cutoff).any
        fun entry => entry.envelope.eventId = id) = true :=
      List.any_eq_true.mpr ⟨row, List.mem_filter.mpr ⟨there, expired⟩, by simpa using same⟩
    simp [forgotten] at spared

end Tables
end Fieldwatch
