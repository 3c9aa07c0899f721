import Mathlib.Data.List.Induction
import Fieldwatch.Store.Tables

/-!
# Commits

What a commit that succeeds leaves in each table. Readings, alerts and entries whose identifiers are
new are all added, in their order.
-/
namespace Fieldwatch

/-- Each staged item, with the items staged before it. -/
def inTurn {α : Type} : List α → List (List α × α)
  | [] => []
  | item :: rest => ([], item) :: (inTurn rest).map fun (earlier, later) => (item :: earlier, later)

theorem inTurn_append {α : Type} (staged more : List α) :
    inTurn (staged ++ more) =
      inTurn staged ++ (inTurn more).map fun (earlier, item) => (staged ++ earlier, item) := by
  induction staged with
  | nil => simp [inTurn]
  | cons head rest ih => simp [inTurn, ih]

theorem inTurn_append_singleton {α : Type} (staged : List α) (item : α) :
    inTurn (staged ++ [item]) = inTurn staged ++ [(staged, item)] := by
  simp [inTurn_append, inTurn]

theorem map_snd_inTurn {α : Type} (staged : List α) : (inTurn staged).map Prod.snd = staged := by
  induction staged with
  | nil => rfl
  | cons head rest ih =>
    rw [inTurn, List.map_cons, List.map_map]
    exact congrArg (head :: ·) ih

/-- An item has its turn where the staged items are those before it, itself and some more. -/
theorem mem_inTurn {α : Type} {staged earlier : List α} {item : α} :
    (earlier, item) ∈ inTurn staged ↔ ∃ later, staged = earlier ++ item :: later := by
  induction staged generalizing earlier with
  | nil => simp [inTurn]
  | cons head rest ih =>
    simp only [inTurn, List.mem_cons, List.mem_map, Prod.mk.injEq, Prod.exists]
    constructor
    · rintro (⟨rfl, rfl⟩ | ⟨before, other, member, rfl, rfl⟩)
      · exact ⟨rest, rfl⟩
      · obtain ⟨later, rfl⟩ := ih.mp member
        exact ⟨later, rfl⟩
    · rintro ⟨later, same⟩
      cases earlier with
      | nil =>
        cases same
        exact .inl ⟨rfl, rfl⟩
      | cons first before =>
        cases same
        exact .inr ⟨before, item, ih.mpr ⟨later, rfl⟩, rfl, rfl⟩

theorem mem_of_mem_inTurn {α : Type} {staged earlier : List α} {item : α}
    (turn : (earlier, item) ∈ inTurn staged) : item ∈ staged ∧ earlier ⊆ staged := by
  obtain ⟨later, rfl⟩ := mem_inTurn.mp turn
  exact ⟨List.mem_append_right _ List.mem_cons_self, List.subset_append_left _ _⟩

namespace Tables

variable {tables after : Tables} {changes : ChangeSet} {receipt : CommitReceipt}

/-- A commit that succeeds finds no stale save and applies the change set. -/
theorem commit_eq_ok (committed : tables.commit changes = (.ok receipt, after)) :
    tables.failNextCommit = false ∧ tables.conflict? changes.alerts = none ∧
      tables.applied changes = (after, receipt) := by
  unfold commit at committed
  split at committed
  · cases committed
  · next unset =>
    split at committed
    · cases committed
    · next agreed =>
      cases committed
      exact ⟨by simpa using unset, agreed, rfl⟩

/-! ## New readings and entries -/

section Keys

variable {α κ : Type} [DecidableEq κ] (key : α → κ) (known : List κ)

/-- The staged items whose key is neither known nor that of an item staged earlier. -/
def firstOfKey (staged : List α) : List α :=
  ((inTurn staged).filter fun (earlier, item) => key item ∉ known ++ earlier.map key).map Prod.snd

theorem firstOfKey_append_singleton (staged : List α) (item : α) :
    firstOfKey key known (staged ++ [item]) = firstOfKey key known staged ++
      if key item ∈ known ++ staged.map key then [] else [item] := by
  rw [firstOfKey, inTurn_append_singleton, List.filter_append, List.map_append, ← firstOfKey]
  by_cases taken : key item ∈ known ++ staged.map key <;>
    simp only [taken, List.filter_cons, List.filter_nil, not_true_eq_false, not_false_eq_true,
      decide_true, decide_false, if_true, if_false, Bool.false_eq_true, List.map_nil,
      List.map_cons]

/-- Every staged key is known or that of an item that is first of its key. -/
theorem mem_keys_firstOfKey (staged : List α) (wanted : κ) :
    wanted ∈ known ++ (firstOfKey key known staged).map key ↔
      wanted ∈ known ++ staged.map key := by
  induction staged using List.reverseRecOn with
  | nil => rfl
  | append_singleton staged item ih =>
    rw [firstOfKey_append_singleton, List.map_append, List.map_append, ← List.append_assoc,
      ← List.append_assoc]
    by_cases taken : key item ∈ known ++ staged.map key
    · rw [if_pos taken, List.map_nil, List.append_nil, ih]
      constructor
      · exact List.mem_append_left _
      · intro member
        rcases List.mem_append.mp member with old | new
        · exact old
        · obtain rfl := List.mem_singleton.mp new
          exact taken
    · rw [if_neg taken]
      simp only [List.mem_append (t := [item].map key), ih]

/-- Items that are first of their key have different keys, none of them known. -/
theorem nodup_keys_firstOfKey {known : List κ} (distinct : known.Nodup) (staged : List α) :
    (known ++ (firstOfKey key known staged).map key).Nodup := by
  induction staged using List.reverseRecOn with
  | nil => simpa [firstOfKey, inTurn] using distinct
  | append_singleton staged item ih =>
    rw [firstOfKey_append_singleton, List.map_append, ← List.append_assoc]
    by_cases taken : key item ∈ known ++ staged.map key
    · rw [if_pos taken, List.map_nil, List.append_nil]
      exact ih
    · rw [if_neg taken, List.map_singleton]
      refine List.nodup_append.mpr ⟨ih, by simp, ?_⟩
      intro other there _ same
      obtain rfl := List.mem_singleton.mp same
      intro repeated
      exact taken ((mem_keys_firstOfKey key known staged _).mp (repeated ▸ there))

/-- Items whose keys are new and different are all first of their key. -/
theorem firstOfKey_of_fresh {key : α → κ} {known : List κ} {staged : List α}
    (distinct : (staged.map key).Nodup) (fresh : ∀ item ∈ staged, key item ∉ known) :
    firstOfKey key known staged = staged := by
  induction staged using List.reverseRecOn with
  | nil => rfl
  | append_singleton staged item ih =>
    rw [List.map_append, List.map_singleton] at distinct
    obtain ⟨apart, -, differs⟩ := List.nodup_append.mp distinct
    have before := ih apart fun other member => fresh other (List.mem_append_left _ member)
    have new : key item ∉ known ++ staged.map key := by
      intro there
      rcases List.mem_append.mp there with old | earlier
      · exact fresh item (List.mem_append_right _ List.mem_cons_self) old
      · exact differs _ earlier _ List.mem_cons_self rfl
    rw [firstOfKey_append_singleton, before, if_neg new]

theorem sublist_firstOfKey (staged : List α) : (firstOfKey key known staged).Sublist staged := by
  have among := (List.filter_sublist (l := inTurn staged)
    (p := fun (earlier, item) => key item ∉ known ++ earlier.map key)).map Prod.snd
  rwa [map_snd_inTurn] at among

end Keys

/-- The staged readings with new identifiers are added, and counted. -/
theorem foldl_addReading (rows staged : List ReadingRecord) :
    staged.foldl addReading (rows, 0) =
      (rows ++ firstOfKey ReadingRecord.id (rows.map ReadingRecord.id) staged,
        (firstOfKey ReadingRecord.id (rows.map ReadingRecord.id) staged).length) := by
  induction staged using List.reverseRecOn with
  | nil => simp [firstOfKey, inTurn]
  | append_singleton staged record ih =>
    have known := mem_keys_firstOfKey ReadingRecord.id (rows.map ReadingRecord.id) staged record.id
    rw [← List.map_append] at known
    have looked (rows : List ReadingRecord) : (rows.any fun row => row.id = record.id) = true ↔
        record.id ∈ rows.map ReadingRecord.id := by
      simp [List.any_eq_true]
    rw [List.foldl_append, ih, List.foldl_cons, List.foldl_nil, addReading,
      firstOfKey_append_singleton]
    by_cases taken : record.id ∈ rows.map ReadingRecord.id ++ staged.map ReadingRecord.id
    · rw [if_pos ((looked _).mpr (known.mpr taken)), if_pos taken, List.append_nil]
    · rw [if_neg (mt (looked _).mp (mt known.mp taken)), if_neg taken, List.length_append,
        List.append_assoc]
      rfl

/-- The staged entries of new events are added, and counted, and their events remembered. -/
theorem foldl_addEntry (outbox staged : List OutboxEntry) (ids : List EventId) :
    staged.foldl addEntry (outbox, ids, 0) =
      let added := firstOfKey (fun entry : OutboxEntry => entry.envelope.eventId) ids staged
      (outbox ++ added, ids ++ added.map (fun entry => entry.envelope.eventId), added.length) := by
  induction staged using List.reverseRecOn with
  | nil => simp [firstOfKey, inTurn]
  | append_singleton staged entry ih =>
    have known := mem_keys_firstOfKey (fun entry : OutboxEntry => entry.envelope.eventId) ids staged
      entry.envelope.eventId
    dsimp only at ih ⊢
    rw [List.foldl_append, ih, List.foldl_cons, List.foldl_nil, addEntry,
      firstOfKey_append_singleton]
    by_cases taken : entry.envelope.eventId ∈ ids ++ staged.map fun entry => entry.envelope.eventId
    · rw [if_pos (known.mpr taken), if_pos taken, List.append_nil]
    · rw [if_neg (mt known.mp taken), if_neg taken, List.length_append, List.append_assoc,
        List.map_append, List.append_assoc]
      rfl

/-! ## New alerts -/

/-- Alerts with new identifiers are all added, in their order. -/
theorem foldl_putAlert {rows : List StoredAlert} {new : List AlertWrite}
    (distinct : (new.map fun write => write.record.id).Nodup)
    (fresh : ∀ write ∈ new, ∀ row ∈ rows, row.record.id ≠ write.record.id) :
    new.foldl putAlert rows = rows ++ new.map fun write => ⟨write.record, write.next⟩ := by
  induction new generalizing rows with
  | nil => simp
  | cons write rest ih =>
    obtain ⟨apart, distinct⟩ := List.nodup_cons.mp distinct
    have absent : (rows.any fun row => row.record.id = write.record.id) = false := by
      simpa using fresh write List.mem_cons_self
    have added : putAlert rows write = rows ++ [⟨write.record, write.next⟩] := by
      simp [putAlert, absent]
    rw [List.foldl_cons, added, ih distinct]
    · simp
    · intro other member row there
      rcases List.mem_append.mp there with old | here
      · exact fresh other (List.mem_cons_of_mem _ member) row old
      · obtain rfl := List.mem_singleton.mp here
        intro same
        exact apart (List.mem_map.mpr ⟨other, member, same.symm⟩)

end Tables
end Fieldwatch
