import Mathlib.Data.List.Induction
import Fieldwatch.Proofs.Store.Alerts
import Fieldwatch.Proofs.Store.Commit
import Fieldwatch.Proofs.Store.Rows

/-!
# What a commit writes

A change set is applied as a whole or not at all. When it is applied, each staged write finds what
was stored and what the writes staged before it left, and takes effect or is ignored by that alone.
`Applies` says of each table what this makes of it, and `commit_all_or_nothing` that a commit does
this or leaves everything as it was.
-/
namespace Fieldwatch

theorem SensorSnapshot.eq_of_retire? {sensor retired : SensorSnapshot} {occurredOn now : Instant}
    (retires : Snapshot.retire? sensor occurredOn now = some retired) :
    retired = sensor.changeStatus .inactive none occurredOn now := by
  simp only [Snapshot.retire?, SensorSnapshot.deactivate?] at retires
  split at retires
  · cases retires
  · exact (Option.some.inj retires).symm

theorem OwnerSnapshot.eq_of_retire? {owner retired : OwnerSnapshot} {occurredOn now : Instant}
    (retires : Snapshot.retire? owner occurredOn now = some retired) :
    retired =
      { owner with isActive := false, lastChangedAt := occurredOn, updatedAt := some now } := by
  simp only [Snapshot.retire?, OwnerSnapshot.deactivate?] at retires
  split at retires
  · exact (Option.some.inj retires).symm
  · cases retires

/-- Snapshots that keep their identifier when they are retired. -/
class LawfulSnapshot (σ : Type) {kind : IdKind} [Snapshot σ kind] : Prop where
  id_retire? {row retired : σ} {occurredOn now : Instant} :
    Snapshot.retire? row occurredOn now = some retired → Snapshot.id retired = Snapshot.id row

instance : LawfulSnapshot SensorSnapshot where
  id_retire? retires := by
    rw [SensorSnapshot.eq_of_retire? retires]
    rfl

instance : LawfulSnapshot OwnerSnapshot where
  id_retire? retires := by
    rw [OwnerSnapshot.eq_of_retire? retires]
    rfl

/-! ## Writes to one row -/

namespace SnapshotWrite

variable {σ : Type} {kind : IdKind} [Snapshot σ kind]

/-- The identifier whose row a write is about. -/
def target : SnapshotWrite σ kind → Id kind
  | add row | update row => Snapshot.id row
  | delete id _ _ => id

/-- Whether a write takes effect on the row of its identifier: an addition where there is none, an
update where there is one, a deletion where there is one that is not retired. -/
def counts (stored : Option σ) : SnapshotWrite σ kind → Bool
  | add _ => stored.isNone
  | update _ => stored.isSome
  | delete _ occurredOn now => (stored.bind fun row => Snapshot.retire? row occurredOn now).isSome

/-- What a write makes of the row of its identifier. -/
def result (stored : Option σ) : SnapshotWrite σ kind → Option σ
  | add row => some (stored.getD row)
  | update row => stored.map fun _ => row
  | delete _ occurredOn now => stored.map fun row => (Snapshot.retire? row occurredOn now).getD row

end SnapshotWrite

namespace Tables

section Snapshots

variable {σ : Type} {kind : IdKind} [Snapshot σ kind]

/-- What staged writes make of the row of an identifier: those about it, in their order. -/
def rowAfter (stored : Option σ) (writes : List (SnapshotWrite σ kind)) (id : Id kind) : Option σ :=
  (writes.filter fun write => write.target = id).foldl SnapshotWrite.result stored

/-- The staged writes that take effect in their turn. -/
def effective (rows : List σ) (writes : List (SnapshotWrite σ kind)) :
    List (SnapshotWrite σ kind) :=
  ((inTurn writes).filter fun (earlier, write) =>
    write.counts (rowAfter (find? rows write.target) earlier write.target)).map Prod.snd

/-- Whether each row of a table is the one found under its own identifier. -/
def Keyed (rows : List σ) : Prop := ∀ row ∈ rows, find? rows (Snapshot.id row) = some row

/-- A write takes effect as the row of its identifier says. -/
theorem isSome_write? (rows : List σ) (write : SnapshotWrite σ kind) :
    (write? rows write).isSome = write.counts (find? rows write.target) := by
  cases write with
  | add row =>
    simp only [write?, SnapshotWrite.counts, SnapshotWrite.target]
    cases find? rows (Snapshot.id row) <;> rfl
  | update row =>
    simp only [write?, SnapshotWrite.counts, SnapshotWrite.target]
    cases find? rows (Snapshot.id row) <;> rfl
  | delete id occurredOn now =>
    simp only [write?, SnapshotWrite.counts, SnapshotWrite.target, Option.isSome_map]

/-- What a write does to a table: it is ignored and says nothing of its row, or it places a row of
its identifier. -/
theorem write?_cases [LawfulSnapshot σ] (rows : List σ) (write : SnapshotWrite σ kind) :
    write? rows write = none ∧
        write.result (find? rows write.target) = find? rows write.target ∨
      ∃ row, Snapshot.id row = write.target ∧
        write.result (find? rows write.target) = some row ∧
        write? rows write = some (placed rows row) := by
  cases write with
  | add row =>
    simp only [SnapshotWrite.target, SnapshotWrite.result]
    cases found : find? rows (Snapshot.id row) with
    | none => exact .inr ⟨row, rfl, rfl, write?_add found rfl⟩
    | some old => exact .inl ⟨by rw [write?, found]; rfl, rfl⟩
  | update row =>
    simp only [SnapshotWrite.target, SnapshotWrite.result]
    cases found : find? rows (Snapshot.id row) with
    | none => exact .inl ⟨by rw [write?, found]; rfl, rfl⟩
    | some old =>
      refine .inr ⟨row, rfl, rfl, ?_⟩
      rw [write?_update found (id_of_find? found).symm, placed_of_found found]
  | delete id occurredOn now =>
    simp only [SnapshotWrite.target, SnapshotWrite.result]
    cases found : find? rows id with
    | none => exact .inl ⟨by rw [write?, found]; rfl, rfl⟩
    | some row =>
      cases retires : Snapshot.retire? row occurredOn now with
      | none =>
        refine .inl ⟨by rw [write?, found, Option.bind_some, retires]; rfl, ?_⟩
        rw [Option.map_some, retires, Option.getD_none]
      | some retired =>
        have owns : Snapshot.id retired = id :=
          (LawfulSnapshot.id_retire? retires).trans (id_of_find? found)
        refine .inr ⟨retired, owns, by rw [Option.map_some, retires, Option.getD_some], ?_⟩
        rw [write?, found, Option.bind_some, retires, placed_of_found (owns ▸ found)]
        rfl

/-- A write makes of the row of its identifier what it says, and of other rows nothing. -/
theorem find?_write? [LawfulSnapshot σ] (rows : List σ) (write : SnapshotWrite σ kind)
    (id : Id kind) : find? ((write? rows write).getD rows) id =
      if write.target = id then write.result (find? rows id) else find? rows id := by
  rcases write?_cases rows write with ⟨ignored, same⟩ | ⟨row, owns, made, taken⟩
  · rw [ignored, Option.getD_none]
    split
    · next wanted => rw [← wanted, same]
    · rfl
  · rw [taken, Option.getD_some, find?_placed, owns]
    split
    · next wanted => rw [← wanted, made]
    · rfl

/-- A write keeps the identifiers of a table, in their places. -/
theorem ids_write? [LawfulSnapshot σ] (rows : List σ) (write : SnapshotWrite σ kind) :
    rows.map Snapshot.id <+: ((write? rows write).getD rows).map Snapshot.id := by
  rcases write?_cases rows write with ⟨ignored, -⟩ | ⟨row, -, -, taken⟩
  · simp only [ignored, Option.getD_none]
    exact List.prefix_rfl
  · rw [taken, Option.getD_some, ids_placed]
    exact List.prefix_append _ _

theorem Keyed.placed {rows : List σ} (keyed : Keyed rows) (row : σ) :
    Keyed (Tables.placed rows row) := by
  intro other member
  rw [find?_placed]
  rcases mem_placed member with rfl | ⟨old, apart⟩
  · rw [if_pos rfl]
  · rw [if_neg apart.symm, keyed other old]

/-- A write keeps each row under its own identifier. -/
theorem keyed_write? [LawfulSnapshot σ] {rows : List σ} (keyed : Keyed rows)
    (write : SnapshotWrite σ kind) : Keyed ((write? rows write).getD rows) := by
  rcases write?_cases rows write with ⟨ignored, -⟩ | ⟨row, -, -, taken⟩
  · rw [ignored, Option.getD_none]
    exact keyed
  · rw [taken, Option.getD_some]
    exact keyed.placed row

/-! ## Writes in their order -/

theorem writeAll_append_singleton (rows : List σ) (writes : List (SnapshotWrite σ kind))
    (write : SnapshotWrite σ kind) : writeAll rows (writes ++ [write]) =
      ((write? (writeAll rows writes).1 write).getD (writeAll rows writes).1,
        (writeAll rows writes).2
          + if (write? (writeAll rows writes).1 write).isSome then 1 else 0) := by
  rw [writeAll, List.foldl_append, ← writeAll, List.foldl_cons, List.foldl_nil]
  rcases writeAll rows writes with ⟨left, count⟩
  dsimp only
  cases write? left write <;> rfl

theorem rowAfter_append_singleton (stored : Option σ) (writes : List (SnapshotWrite σ kind))
    (write : SnapshotWrite σ kind) (id : Id kind) : rowAfter stored (writes ++ [write]) id =
      if write.target = id then write.result (rowAfter stored writes id)
      else rowAfter stored writes id := by
  by_cases wanted : write.target = id <;> simp [rowAfter, List.filter_append, wanted]

theorem effective_append_singleton (rows : List σ) (writes : List (SnapshotWrite σ kind))
    (write : SnapshotWrite σ kind) : effective rows (writes ++ [write]) =
      effective rows writes ++
        if write.counts (rowAfter (find? rows write.target) writes write.target) then [write]
        else [] := by
  rw [effective, inTurn_append_singleton, List.filter_append, List.map_append, ← effective]
  by_cases takes : write.counts (rowAfter (find? rows write.target) writes write.target) = true <;>
    simp [takes]

/-- Staged writes make of the row of each identifier what those about it make of it. -/
theorem find?_writeAll [LawfulSnapshot σ] (rows : List σ) (writes : List (SnapshotWrite σ kind))
    (id : Id kind) : find? (writeAll rows writes).1 id = rowAfter (find? rows id) writes id := by
  induction writes using List.reverseRecOn with
  | nil => rfl
  | append_singleton writes write ih =>
    rw [writeAll_append_singleton, find?_write?, rowAfter_append_singleton, ih]

/-- The writes that are counted are those that take effect in their turn. -/
theorem count_writeAll [LawfulSnapshot σ] (rows : List σ) (writes : List (SnapshotWrite σ kind)) :
    (writeAll rows writes).2 = (effective rows writes).length := by
  induction writes using List.reverseRecOn with
  | nil => rfl
  | append_singleton writes write ih =>
    rw [writeAll_append_singleton, effective_append_singleton, List.length_append, ih,
      isSome_write?, find?_writeAll]
    split <;> rfl

theorem ids_writeAll [LawfulSnapshot σ] (rows : List σ) (writes : List (SnapshotWrite σ kind)) :
    rows.map Snapshot.id <+: (writeAll rows writes).1.map Snapshot.id := by
  induction writes using List.reverseRecOn with
  | nil => exact List.prefix_rfl
  | append_singleton writes write ih =>
    rw [writeAll_append_singleton]
    exact ih.trans (ids_write? _ write)

theorem keyed_writeAll [LawfulSnapshot σ] {rows : List σ} (keyed : Keyed rows)
    (writes : List (SnapshotWrite σ kind)) : Keyed (writeAll rows writes).1 := by
  induction writes using List.reverseRecOn with
  | nil => exact keyed
  | append_singleton writes write ih =>
    rw [writeAll_append_singleton]
    exact keyed_write? ih write

end Snapshots

/-! ## Saves of alerts -/

/-- What staged saves make of the row of an alert: the last of those of it, if there is one. -/
def alertRowAfter (stored : Option StoredAlert) (saves : List AlertWrite) (id : EntityId) :
    Option StoredAlert :=
  (saves.filter fun save => save.record.id = id).foldl
    (fun _ save => some ⟨save.record, save.next⟩) stored

theorem alertRow?_foldl_putAlert (rows : List StoredAlert) (saves : List AlertWrite)
    (id : EntityId) : alertRow? (saves.foldl putAlert rows) id =
      alertRowAfter (alertRow? rows id) saves id := by
  induction saves generalizing rows with
  | nil => rfl
  | cons save rest ih =>
    rw [List.foldl_cons, ih, alertRow?_putAlert, alertRowAfter, alertRowAfter, List.filter_cons]
    by_cases wanted : save.record.id = id <;> simp [wanted]

/-! ## Commits -/

variable {tables after : Tables} {changes : ChangeSet} {receipt : CommitReceipt}

/-- What a change set makes of each table when it is applied: new readings are added and the stored
ones kept, the row of each alert, sensor and owner is what the writes about it make of it, and the
entries of new events are added. The receipt counts the writes that took effect. -/
structure Applies (tables : Tables) (changes : ChangeSet) (receipt : CommitReceipt)
    (after : Tables) : Prop where
  commits : after.commits = tables.commits + 1
  readings : after.readings = tables.readings ++
    firstOfKey ReadingRecord.id (tables.readings.map ReadingRecord.id) changes.readings
  alerts : ∀ id, alertRow? after.alerts id =
    alertRowAfter (alertRow? tables.alerts id) changes.alerts id
  sensors : ∀ id, find? after.sensors id = rowAfter (find? tables.sensors id) changes.sensors id
  owners : ∀ id, find? after.owners id = rowAfter (find? tables.owners id) changes.owners id
  sensorIds : tables.sensors.map Snapshot.id <+: after.sensors.map Snapshot.id
  ownerIds : tables.owners.map Snapshot.id <+: after.owners.map Snapshot.id
  sensorKeys : Keyed tables.sensors → Keyed after.sensors
  ownerKeys : Keyed tables.owners → Keyed after.owners
  outbox : after.outbox = tables.outbox ++
    firstOfKey (fun entry => entry.envelope.eventId) tables.eventIds changes.outbox
  eventIds : after.eventIds = tables.eventIds ++
    (firstOfKey (fun entry => entry.envelope.eventId) tables.eventIds changes.outbox).map
      fun entry => entry.envelope.eventId
  failNextCommit : after.failNextCommit = tables.failNextCommit
  writes : receipt.writes =
    (firstOfKey ReadingRecord.id (tables.readings.map ReadingRecord.id) changes.readings).length
      + changes.alerts.length + (effective tables.sensors changes.sensors).length
      + (effective tables.owners changes.owners).length
  outboxEntries : receipt.outboxEntries =
    (firstOfKey (fun entry => entry.envelope.eventId) tables.eventIds changes.outbox).length

/-- Why a commit is refused: it was set to fail, or a save is stale. -/
inductive Refuses (tables : Tables) (changes : ChangeSet) : StoreError → Prop
  | switched : tables.failNextCommit = true →
    Refuses tables changes (.unavailable "injected commit failure")
  | stale {save : AlertWrite} : save ∈ changes.alerts →
    tables.alertVersion save.record.id ≠ save.expected →
    Refuses tables changes
      (.conflict save.record.id save.expected (tables.alertVersion save.record.id))

theorem applies_applied (tables : Tables) (changes : ChangeSet) :
    Applies tables changes (tables.applied changes).2 (tables.applied changes).1 := by
  have readings := foldl_addReading tables.readings changes.readings
  have entries := foldl_addEntry tables.outbox changes.outbox tables.eventIds
  constructor
  case commits => rfl
  case readings => exact congrArg Prod.fst readings
  case alerts => exact fun id => alertRow?_foldl_putAlert tables.alerts changes.alerts id
  case sensors => exact fun id => find?_writeAll tables.sensors changes.sensors id
  case owners => exact fun id => find?_writeAll tables.owners changes.owners id
  case sensorIds => exact ids_writeAll tables.sensors changes.sensors
  case ownerIds => exact ids_writeAll tables.owners changes.owners
  case sensorKeys => exact fun keyed => keyed_writeAll keyed changes.sensors
  case ownerKeys => exact fun keyed => keyed_writeAll keyed changes.owners
  case outbox => exact congrArg Prod.fst entries
  case eventIds => exact congrArg (fun answer => answer.2.1) entries
  case failNextCommit => rfl
  case outboxEntries => exact congrArg (fun answer => answer.2.2) entries
  case writes =>
    rw [← count_writeAll, ← count_writeAll]
    have counted := congrArg Prod.snd readings
    dsimp only at counted
    rw [← counted]
    rfl

/-- A conflict is that of a stale save, and there is none when every save is from the version that
is stored. -/
theorem conflict?_cases (tables : Tables) (saves : List AlertWrite) :
    tables.conflict? saves = none ∧
        (∀ save ∈ saves, tables.alertVersion save.record.id = save.expected) ∨
      ∃ save ∈ saves, tables.alertVersion save.record.id ≠ save.expected ∧
        tables.conflict? saves = some (.conflict save.record.id save.expected
          (tables.alertVersion save.record.id)) := by
  cases found : tables.conflict? saves with
  | none => exact .inl ⟨rfl, fun save member => expected_of_conflict? found member⟩
  | some error =>
    obtain ⟨save, member, refused⟩ := List.exists_of_findSome?_eq_some found
    refine .inr ⟨save, member, ?_⟩
    dsimp only at refused
    split at refused
    · cases refused
    · next stale => exact ⟨stale, refused.symm⟩

/-- A commit is refused, and then clears the switch and does nothing else, or is taken, and then
applies its change set. -/
theorem commit_cases (tables : Tables) (changes : ChangeSet) :
    (∃ error, tables.commit changes = (.error error, { tables with failNextCommit := false }) ∧
        Refuses tables changes error) ∨
      tables.commit changes = (.ok (tables.applied changes).2, (tables.applied changes).1) ∧
        ∀ error, ¬ Refuses tables changes error := by
  unfold commit
  cases unset : tables.failNextCommit with
  | true => exact .inl ⟨_, rfl, .switched unset⟩
  | false =>
    rcases conflict?_cases tables changes.alerts with ⟨none, current⟩ | ⟨save, member, stale, some⟩
    · refine .inr ⟨by rw [none]; rfl, ?_⟩
      rintro _ (set | ⟨member, stale⟩)
      · rw [unset] at set
        cases set
      · exact stale (current _ member)
    · have kept : { tables with failNextCommit := false } = tables := by rw [← unset]
      refine .inl ⟨_, ?_, .stale member stale⟩
      rw [some, kept]
      rfl

/-- A commit is refused and leaves everything as it was, but for the switch that makes commits
fail, which is cleared; or it applies the whole change set, none of its saves being stale. -/
theorem commit_all_or_nothing (tables : Tables) (changes : ChangeSet) :
    (∃ error, tables.commit changes = (.error error, { tables with failNextCommit := false }) ∧
        Refuses tables changes error) ∨
      ∃ receipt after, tables.commit changes = (.ok receipt, after) ∧
        (∀ error, ¬ Refuses tables changes error) ∧ Applies tables changes receipt after := by
  rcases commit_cases tables changes with refused | ⟨taken, current⟩
  · exact .inl refused
  · exact .inr ⟨_, _, taken, current, applies_applied tables changes⟩

end Tables
end Fieldwatch
