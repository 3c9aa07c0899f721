import Mathlib.Data.List.Nodup
import Fieldwatch.Proofs.Store.Outbox
import Fieldwatch.Proofs.Store.Writes

/-!
# What the outbox remembers

The store keeps the identifiers of events beside the entries that carry them. Commits, marks, prunes
and clears keep the two in step: no event has two entries, and an event is remembered exactly as
long as its entry is kept. So a commit stages an event again only once its entry is gone, and an
entry that is not published is gone only once the store was cleared.
-/
namespace Fieldwatch

/-! ## Retention -/

/-- No retention that is too long to be taken off an instant ends within the range of instants. -/
theorem retentionCutoff_eq_sub? (retention : Nat) (now : Instant) :
    retentionCutoff retention now = now.sub? ⟨retention⟩ := by
  unfold retentionCutoff
  by_cases short : retention ≤ Span.longest
  · rw [if_pos short]
  · rw [if_neg short]
    have finish := now.le_last
    have limit := now.fraction_lt_two_seconds
    have long : 9223372036854775807000000 < retention := by
      have : Span.longest = 9223372036854775807000000 := rfl
      omega
    have backward : (Span.neg ⟨retention⟩).nanos = -(retention : Int) := rfl
    -- so far back from any instant there is none, leap second or not
    have early : Instant.ofNanos? (now.nanos + (Span.neg ⟨retention⟩).nanos) = none := by
      rw [Instant.ofNanos?_eq_none_iff, backward]
      simp only [Instant.nanos, Instant.first, Instant.last] at *
      omega
    rw [Instant.sub?, Instant.add?]
    by_cases leap : now.isLeap = true
    · rw [if_pos leap, if_neg (by omega), if_pos (by omega), early]
    · rw [if_neg leap, early]

/-- Whether an entry was published before the instant that lies a retention before now. Where that
is out of range, none was. -/
def OutboxEntry.outlived (entry : OutboxEntry) (retention : Nat) (now : Instant) : Bool :=
  (now.sub? ⟨retention⟩).any entry.publishedBefore

/-! ## Calls -/

/-- A call that may change the outbox. -/
inductive OutboxCall
  | commit (changes : ChangeSet)
  /-- The next commit is set to fail. -/
  | failNext
  | markPublished (id : EntryId) (now : Instant)
  | markFailed (id : EntryId) (reason : String) (now : Instant)
  | prune (retention : Nat) (now : Instant)
  | clear

namespace Tables

variable {tables after : Tables}

def call (tables : Tables) : OutboxCall → Tables
  | .commit changes => (tables.commit changes).2
  | .failNext => { tables with failNextCommit := true }
  | .markPublished id now => (tables.mark id (·.markPublished now)).2
  | .markFailed id reason now => (tables.mark id (·.markFailed reason now)).2
  | .prune retention now => (tables.prune retention now).2
  | .clear => tables.cleared

def callAll (tables : Tables) (calls : List OutboxCall) : Tables := calls.foldl call tables

/-- The identifiers of the events whose entries are kept, in the order of the entries. -/
def keptEvents (tables : Tables) : List EventId :=
  tables.outbox.map fun entry => entry.envelope.eventId

/-- What calls keep up: no event has two entries, and those remembered are those with an entry. -/
structure Remembered (tables : Tables) : Prop where
  distinct : tables.keptEvents.Nodup
  exactly : tables.eventIds = tables.keptEvents

/-! ## What each call does -/

/-- A commit that succeeds appends the first entry staged for each event that has none, in the
order in which they were staged. -/
theorem Remembered.outbox_commit (remembered : Remembered tables) {changes : ChangeSet}
    {receipt : CommitReceipt} (committed : tables.commit changes = (.ok receipt, after)) :
    after.outbox = tables.outbox ++
      firstOfKey (fun entry => entry.envelope.eventId) tables.keptEvents changes.outbox := by
  obtain ⟨-, -, applied⟩ := commit_eq_ok committed
  have applies := applies_applied tables changes
  rw [applied] at applies
  rw [← remembered.exactly]
  exact applies.outbox

theorem Remembered.commit (remembered : Remembered tables) (changes : ChangeSet) :
    Remembered (tables.commit changes).2 := by
  rcases commit_cases tables changes with ⟨error, refused, -⟩ | ⟨taken, -⟩
  · rw [refused]
    exact ⟨remembered.distinct, remembered.exactly⟩
  · have applies := applies_applied tables changes
    have kept : (tables.applied changes).1.keptEvents = tables.keptEvents ++
        (firstOfKey (fun entry => entry.envelope.eventId) tables.keptEvents changes.outbox).map
          fun entry => entry.envelope.eventId := by
      rw [keptEvents, remembered.outbox_commit taken, List.map_append, ← keptEvents]
    rw [taken]
    constructor
    · rw [kept]
      exact nodup_keys_firstOfKey _ remembered.distinct changes.outbox
    · rw [kept, applies.eventIds, remembered.exactly]

theorem keptEvents_mark (id : EntryId) {change : OutboxEntry → OutboxEntry}
    (same : ∀ row, (change row).envelope = row.envelope) (tables : Tables) :
    (tables.mark id change).2.keptEvents = tables.keptEvents := by
  unfold mark
  split
  · rfl
  · exact map_changeFirst id (fun row => congrArg Envelope.eventId (same row)) tables.outbox

theorem Remembered.mark (remembered : Remembered tables) (id : EntryId)
    {change : OutboxEntry → OutboxEntry} (same : ∀ row, (change row).envelope = row.envelope) :
    Remembered (tables.mark id change).2 := by
  constructor
  · rw [keptEvents_mark id same]
    exact remembered.distinct
  · rw [keptEvents_mark id same, eventIds_mark, remembered.exactly]

/-- A prune counts and drops the entries that outlived the retention and keeps the others. -/
theorem outbox_prune (tables : Tables) (retention : Nat) (now : Instant) :
    (tables.prune retention now).1 =
        (tables.outbox.filter fun entry => entry.outlived retention now).length ∧
      (tables.prune retention now).2.outbox =
        tables.outbox.filter fun entry => !entry.outlived retention now := by
  unfold prune OutboxEntry.outlived
  rw [retentionCutoff_eq_sub?]
  cases now.sub? ⟨retention⟩ with
  | none => simp
  | some cutoff => simp

/-- A prune forgets the events of the entries that it drops, and no other: the entry of an event is
the only one. -/
theorem Remembered.eventIds_prune (remembered : Remembered tables) (retention : Nat)
    (now : Instant) :
    (tables.prune retention now).2.eventIds = (tables.prune retention now).2.keptEvents := by
  unfold prune
  cases retentionCutoff retention now with
  | none => exact remembered.exactly
  | some cutoff =>
    dsimp only [keptEvents]
    rw [remembered.exactly, keptEvents, List.filter_map]
    congr 1
    refine List.filter_congr fun entry member => ?_
    -- the entry of an event is the only one, so the event goes exactly when its entry does
    have own : ((tables.outbox.filter fun other => other.publishedBefore cutoff).any
        fun other => other.envelope.eventId = entry.envelope.eventId) =
        entry.publishedBefore cutoff := by
      by_cases expired : entry.publishedBefore cutoff = true
      · rw [expired]
        exact List.any_eq_true.mpr ⟨entry, List.mem_filter.mpr ⟨member, expired⟩, by simp⟩
      · rw [Bool.eq_false_iff.mpr expired]
        refine List.any_eq_false.mpr fun other dropped same => expired ?_
        obtain ⟨there, aged⟩ := List.mem_filter.mp dropped
        have one : other = entry := List.inj_on_of_nodup_map remembered.distinct there member
          (by simpa using same)
        exact one ▸ aged
    exact congrArg not own

theorem Remembered.prune (remembered : Remembered tables) (retention : Nat) (now : Instant) :
    Remembered (tables.prune retention now).2 := by
  refine ⟨?_, remembered.eventIds_prune retention now⟩
  rw [keptEvents, (outbox_prune tables retention now).2]
  exact remembered.distinct.sublist (List.filter_sublist.map _)

theorem Remembered.call (remembered : Remembered tables) (call : OutboxCall) :
    Remembered (tables.call call) := by
  cases call with
  | commit changes => exact remembered.commit changes
  | failNext => exact ⟨remembered.distinct, remembered.exactly⟩
  | markPublished id now => exact remembered.mark id fun _ => rfl
  | markFailed id reason now => exact remembered.mark id fun _ => rfl
  | prune retention now => exact remembered.prune retention now
  | clear => exact ⟨List.nodup_nil, rfl⟩

theorem remembered_callAll (calls : List OutboxCall) : Remembered (empty.callAll calls) := by
  induction calls using List.reverseRecOn with
  | nil => exact ⟨List.nodup_nil, rfl⟩
  | append_singleton calls last ih =>
    rw [callAll, List.foldl_append]
    exact ih.call last

/-- An entry that is not published keeps its row under any call but a clear, with its identifier and
its envelope. -/
theorem unpublished_kept {call : OutboxCall} (keeps : call ≠ .clear) {entry : OutboxEntry}
    (there : entry ∈ tables.outbox) (unpublished : entry.status ≠ .published) :
    ∃ row ∈ (tables.call call).outbox, row.id = entry.id ∧ row.envelope = entry.envelope := by
  cases call with
  | commit changes =>
    rcases commit_cases tables changes with ⟨error, refused, -⟩ | ⟨taken, -⟩
    · rw [Tables.call, refused]
      exact ⟨entry, there, rfl, rfl⟩
    · obtain ⟨added, -, grown⟩ := Tables.outbox_commit taken
      rw [Tables.call, taken, grown]
      exact ⟨entry, List.mem_append_left _ there, rfl, rfl⟩
  | failNext => exact ⟨entry, there, rfl, rfl⟩
  | markPublished id now =>
    have marked : Marked id True tables.outbox (tables.mark id (·.markPublished now)).2.outbox :=
      marked_mark (·.markPublished now) (fun _ => ⟨rfl, rfl⟩) (fun _ _ => trivial) tables
    exact marked.kept entry there
  | markFailed id reason now =>
    have marked : Marked id True tables.outbox
        (tables.mark id (·.markFailed reason now)).2.outbox :=
      marked_mark (·.markFailed reason now) (fun _ => ⟨rfl, rfl⟩) (fun _ _ => trivial) tables
    exact marked.kept entry there
  | prune retention now =>
    exact ⟨entry, (mem_outbox_prune tables retention now entry).2 there unpublished, rfl, rfl⟩
  | clear => exact absurd rfl keeps

/-- After any calls on an empty store no event has two entries, and the events remembered are those
with an entry. So a commit that succeeds appends, of the entries staged, those whose event has no
entry and was not staged before; a prune drops, forgets and counts the entries published before now
less the retention; and an entry that is not published is removed by a clear only. -/
theorem remembered_while_kept (calls : List OutboxCall) :
    let tables := empty.callAll calls
    tables.keptEvents.Nodup ∧ tables.eventIds = tables.keptEvents ∧
      (∀ changes receipt after, tables.commit changes = (.ok receipt, after) →
        after.outbox = tables.outbox ++
          firstOfKey (fun entry => entry.envelope.eventId) tables.keptEvents changes.outbox) ∧
      (∀ retention now,
        (tables.prune retention now).1 =
            (tables.outbox.filter fun entry => entry.outlived retention now).length ∧
          (tables.prune retention now).2.outbox =
            (tables.outbox.filter fun entry => !entry.outlived retention now) ∧
          (tables.prune retention now).2.eventIds =
            (tables.prune retention now).2.keptEvents) ∧
      ∀ call, call ≠ .clear → ∀ entry ∈ tables.outbox, entry.status ≠ .published →
        ∃ row ∈ (tables.call call).outbox, row.id = entry.id ∧ row.envelope = entry.envelope := by
  intro tables
  have remembered : Remembered tables := remembered_callAll calls
  refine ⟨remembered.distinct, remembered.exactly, ?_, ?_, ?_⟩
  · intro changes receipt after committed
    exact remembered.outbox_commit committed
  · intro retention now
    obtain ⟨counted, left⟩ := outbox_prune tables retention now
    exact ⟨counted, left, remembered.eventIds_prune retention now⟩
  · intro call keeps entry there unpublished
    exact unpublished_kept keeps there unpublished

end Tables
end Fieldwatch
