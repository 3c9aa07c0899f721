import Fieldwatch.Store.Tables

/-!
# Rows of snapshots

What each staged write to a table of snapshots does to the row of its identifier, and what a commit
of one such write does to the tables: it changes one table at most, and there one row at most.
-/
namespace Fieldwatch.Tables

section Rows

variable {σ : Type} {kind : IdKind} [Snapshot σ kind] {rows after : List σ} {row : σ} {id : Id kind}

theorem id_of_find? (found : find? rows id = some row) : Snapshot.id row = id := by
  simpa using List.find?_some found

/-- Overwriting a row puts the new one in its place, and leaves the others. -/
theorem find?_overwrite (rows : List σ) (row : σ) (id : Id kind) :
    find? (overwrite rows row) id =
      if Snapshot.id row = id then (find? rows id).map fun _ => row else find? rows id := by
  have same (old : σ) :
      Snapshot.id (if Snapshot.id old = Snapshot.id row then row else old) = Snapshot.id old := by
    split
    · next here => exact here.symm
    · rfl
  have moved : find? (overwrite rows row) id =
      (find? rows id).map fun old => if Snapshot.id old = Snapshot.id row then row else old := by
    simp only [find?, overwrite, List.find?_map, Function.comp_def, same]
  rw [moved]
  cases found : find? rows id with
  | none => split <;> rfl
  | some old =>
    simp only [Option.map_some, id_of_find? found, eq_comm (a := id)]
    split <;> rfl

theorem ids_overwrite (rows : List σ) (row : σ) :
    (overwrite rows row).map Snapshot.id = rows.map Snapshot.id := by
  rw [overwrite, List.map_map]
  refine List.map_congr_left fun old _ => ?_
  by_cases here : Snapshot.id old = Snapshot.id row
  · simp [here]
  · simp [here]

theorem overwrite_overwrite {last : σ} (rows : List σ) (same : Snapshot.id last = Snapshot.id row) :
    overwrite (overwrite rows row) last = overwrite rows last := by
  rw [overwrite, overwrite, overwrite, List.map_map]
  refine List.map_congr_left fun old _ => ?_
  by_cases here : Snapshot.id old = Snapshot.id row
  · simp [here, same]
  · simp [here, same]

theorem find?_append_self (absent : find? rows id = none) (same : Snapshot.id row = id) :
    find? (rows ++ [row]) id = some row := by
  unfold find? at absent ⊢
  simp [List.find?_append, absent, same]

/-- A table with a row in the place of the one of its identifier, or at its end if there is none. -/
def placed (rows : List σ) (row : σ) : List σ :=
  if (find? rows (Snapshot.id row)).isSome then overwrite rows row else rows ++ [row]

theorem placed_of_absent (absent : find? rows (Snapshot.id row) = none) :
    placed rows row = rows ++ [row] := by
  simp [placed, absent]

theorem placed_of_found {old : σ} (found : find? rows (Snapshot.id row) = some old) :
    placed rows row = overwrite rows row := by
  simp [placed, found]

/-- A row that is placed is found under its identifier, and the others are as they were. -/
theorem find?_placed (rows : List σ) (row : σ) (id : Id kind) :
    find? (placed rows row) id = if Snapshot.id row = id then some row else find? rows id := by
  cases found : find? rows (Snapshot.id row) with
  | none =>
    rw [placed_of_absent found]
    split
    · next owns => exact find?_append_self (owns ▸ found) owns
    · next other => simp [find?, List.find?_append, other]
  | some old =>
    rw [placed_of_found found, find?_overwrite]
    split
    · next owns =>
      subst owns
      rw [found]
      rfl
    · rfl

theorem mem_placed {other : σ} (member : other ∈ placed rows row) :
    other = row ∨ other ∈ rows ∧ Snapshot.id other ≠ Snapshot.id row := by
  cases found : find? rows (Snapshot.id row) with
  | none =>
    rw [placed_of_absent found] at member
    refine (List.mem_append.mp member).symm.imp List.mem_singleton.mp fun old => ⟨old, ?_⟩
    simpa using List.find?_eq_none.mp found other old
  | some first =>
    rw [placed_of_found found] at member
    obtain ⟨old, among, rfl⟩ := List.mem_map.mp member
    by_cases here : Snapshot.id old = Snapshot.id row
    · exact .inl (if_pos here)
    · rw [if_neg here]
      exact .inr ⟨among, here⟩

theorem ids_placed (rows : List σ) (row : σ) : (placed rows row).map Snapshot.id =
    rows.map Snapshot.id ++
      if Snapshot.id row ∈ rows.map Snapshot.id then [] else [Snapshot.id row] := by
  cases found : find? rows (Snapshot.id row) with
  | none =>
    have fresh : Snapshot.id row ∉ rows.map Snapshot.id := by simpa [find?] using found
    rw [placed_of_absent found, if_neg fresh, List.map_append]
    rfl
  | some old =>
    have known : Snapshot.id row ∈ rows.map Snapshot.id :=
      List.mem_map.mpr ⟨old, List.mem_of_find?_eq_some found, id_of_find? found⟩
    rw [placed_of_found found, if_pos known, ids_overwrite, List.append_nil]

/-- Adding a row takes effect where there is none of its identifier. -/
theorem write?_add (absent : find? rows id = none) (same : Snapshot.id row = id) :
    write? rows (.add row) = some (placed rows row) := by
  subst same
  simp [write?, placed, absent]

theorem write?_update {old : σ} (found : find? rows id = some old)
    (same : Snapshot.id row = Snapshot.id old) :
    write? rows (.update row) = some (overwrite rows row) := by
  simp [write?, same, id_of_find? found, found]

/-- Deleting takes effect on the row that is there, unless it is retired. -/
theorem write?_delete {retired : σ} {occurredOn now : Instant} (found : find? rows id = some row)
    (retires : Snapshot.retire? row occurredOn now = some retired) :
    write? rows (.delete (Snapshot.id row) occurredOn now) = some (overwrite rows retired) := by
  simp [write?, id_of_find? found, found, retires]

theorem writeAll_singleton (rows : List σ) (write : SnapshotWrite σ kind) :
    writeAll rows [write] =
      ((write? rows write).getD rows, if (write? rows write).isSome then 1 else 0) := by
  cases taken : write? rows write <;> simp [writeAll, taken]

end Rows

/-- A commit of one write to the sensors changes the sensors alone. -/
theorem commit_writeSensor {tables : Tables} (write : SnapshotWrite SensorSnapshot .sensor)
    (unset : tables.failNextCommit = false) :
    tables.commit (ChangeSet.empty.writeSensor write) =
      (.ok ⟨if (write? tables.sensors write).isSome then 1 else 0, 0⟩,
        { tables with
          sensors := (write? tables.sensors write).getD tables.sensors
          commits := tables.commits + 1 }) := by
  simp [commit, unset, conflict?, applied, ChangeSet.empty, ChangeSet.writeSensor,
    writeAll_singleton]
  simp [writeAll]

theorem commit_writeOwner {tables : Tables} (write : SnapshotWrite OwnerSnapshot .owner)
    (unset : tables.failNextCommit = false) :
    tables.commit (ChangeSet.empty.writeOwner write) =
      (.ok ⟨if (write? tables.owners write).isSome then 1 else 0, 0⟩,
        { tables with
          owners := (write? tables.owners write).getD tables.owners
          commits := tables.commits + 1 }) := by
  simp [commit, unset, conflict?, applied, ChangeSet.empty, ChangeSet.writeOwner,
    writeAll_singleton]
  simp [writeAll]

/-- A commit that was set to fail does so, and clears the switch. -/
theorem commit_of_failNext {tables : Tables} (changes : ChangeSet)
    (set : tables.failNextCommit = true) :
    tables.commit changes =
      (.error (.unavailable "injected commit failure"),
        { tables with failNextCommit := false }) := by
  rw [commit, if_pos set]

end Fieldwatch.Tables
