import Fieldwatch.Store.Tables

/-!
# Rows of alerts

What a save does to the row of its alert, and what the versions of rows say of a save that was
taken. Each alert has one row at most.
-/
namespace Fieldwatch.Tables

variable {tables : Tables} {rows : List StoredAlert} {row : StoredAlert} {write : AlertWrite}

/-- The identifiers of the alerts of rows. -/
def alertIds (rows : List StoredAlert) : List EntityId :=
  rows.map fun row => row.record.id

theorem find?_alerts (distinct : (alertIds rows).Nodup) (member : row ∈ rows) :
    (rows.find? fun stored => stored.record.id = row.record.id) = some row := by
  induction rows with
  | nil => cases member
  | cons head rest ih =>
    obtain ⟨apart, distinct⟩ := List.nodup_cons.mp distinct
    rcases List.mem_cons.mp member with rfl | later
    · simp
    · have other : head.record.id ≠ row.record.id := by
        intro same
        exact apart (List.mem_map.mpr ⟨row, later, same.symm⟩)
      simpa [other] using ih distinct later

/-- The version of an alert is that of its row. -/
theorem alertVersion_of_mem (distinct : (alertIds tables.alerts).Nodup)
    (member : row ∈ tables.alerts) : tables.alertVersion row.record.id = row.version := by
  rw [alertVersion, find?_alerts distinct member]
  rfl

/-- An alert that is found is restored from its row. -/
theorem alert?_eq_some {id : EntityId} {alert : Alert} (found : tables.alert? id = some alert) :
    ∃ row ∈ tables.alerts, row.record.id = id ∧ alert = .restore row.record row.version := by
  obtain ⟨row, first, same⟩ := Option.map_eq_some_iff.mp found
  have named : row.record.id = id := by simpa using List.find?_some first
  exact ⟨row, List.mem_of_find?_eq_some first, named, same.symm⟩

/-- Saves without a conflict were made from copies of the versions that are stored. -/
theorem expected_of_conflict? {writes : List AlertWrite} (agreed : tables.conflict? writes = none)
    (member : write ∈ writes) : tables.alertVersion write.record.id = write.expected := by
  have unmoved := List.findSome?_eq_none_iff.mp agreed write member
  by_cases same : tables.alertVersion write.record.id = write.expected
  · exact same
  · simp [same] at unmoved

/-- After a save the rows are its own and those of other alerts. -/
theorem mem_putAlert : row ∈ putAlert rows write ↔
    row = ⟨write.record, write.next⟩ ∨ row ∈ rows ∧ row.record.id ≠ write.record.id := by
  unfold putAlert
  dsimp only
  split
  · next taken =>
    obtain ⟨old, there, same⟩ := List.any_eq_true.mp taken
    constructor
    · intro member
      obtain ⟨before, among, rfl⟩ := List.mem_map.mp member
      by_cases here : before.record.id = write.record.id
      · exact .inl (if_pos here)
      · rw [if_neg here]
        exact .inr ⟨among, here⟩
    · rintro (rfl | ⟨among, other⟩)
      · exact List.mem_map.mpr ⟨old, there, if_pos (by simpa using same)⟩
      · exact List.mem_map.mpr ⟨row, among, if_neg other⟩
  · next free =>
    have other {row : StoredAlert} (among : row ∈ rows) : row.record.id ≠ write.record.id := by
      intro same
      exact free (List.any_eq_true.mpr ⟨row, among, by simpa using same⟩)
    constructor
    · intro member
      rcases List.mem_append.mp member with old | new
      · exact .inr ⟨old, other old⟩
      · exact .inl (List.mem_singleton.mp new)
    · rintro (rfl | ⟨among, -⟩)
      · exact List.mem_append_right _ List.mem_cons_self
      · exact List.mem_append_left _ among

theorem mem_alertIds_putAlert {id : EntityId} : id ∈ alertIds (putAlert rows write) ↔
    id = write.record.id ∨ id ∈ alertIds rows := by
  constructor
  · intro member
    obtain ⟨row, there, rfl⟩ := List.mem_map.mp member
    rcases mem_putAlert.mp there with rfl | ⟨old, -⟩
    · exact .inl rfl
    · exact .inr (List.mem_map_of_mem old)
  · intro member
    by_cases new : id = write.record.id
    · exact List.mem_map.mpr ⟨_, mem_putAlert.mpr (.inl rfl), new.symm⟩
    · obtain ⟨row, there, rfl⟩ := List.mem_map.mp (member.resolve_left new)
      exact List.mem_map_of_mem (mem_putAlert.mpr (.inr ⟨there, new⟩))

/-- The row of an alert. -/
def alertRow? (rows : List StoredAlert) (id : EntityId) : Option StoredAlert :=
  rows.find? fun row => row.record.id = id

/-- A save leaves its own row, and the rows of other alerts as they were. -/
theorem alertRow?_putAlert (rows : List StoredAlert) (write : AlertWrite) (id : EntityId) :
    alertRow? (putAlert rows write) id =
      if write.record.id = id then some ⟨write.record, write.next⟩ else alertRow? rows id := by
  unfold putAlert alertRow?
  dsimp only
  split
  · next taken =>
    have same (old : StoredAlert) : (if old.record.id = write.record.id then
        (⟨write.record, write.next⟩ : StoredAlert) else old).record.id = old.record.id := by
      split
      · next here => exact here.symm
      · rfl
    simp only [List.find?_map, Function.comp_def, same]
    cases found : rows.find? fun row => row.record.id = id with
    | none =>
      have other : write.record.id ≠ id := by
        rintro rfl
        obtain ⟨row, there, owns⟩ := List.any_eq_true.mp taken
        exact List.find?_eq_none.mp found row there owns
      rw [if_neg other]
      rfl
    | some row =>
      have owns : row.record.id = id := by simpa using List.find?_some found
      simp only [Option.map_some, owns, eq_comm (a := id)]
      split <;> rfl
  · next free =>
    rw [List.find?_append]
    by_cases wanted : write.record.id = id
    · subst wanted
      have absent : (rows.find? fun row => row.record.id = write.record.id) = none := by
        simpa using free
      simp [absent]
    · simp [wanted]

/-- A save leaves one row at most for each alert. -/
theorem nodup_putAlert (distinct : (alertIds rows).Nodup) :
    (alertIds (putAlert rows write)).Nodup := by
  unfold putAlert
  dsimp only
  split
  · have same : alertIds (rows.map fun old =>
        if old.record.id = write.record.id then ⟨write.record, write.next⟩ else old) =
        alertIds rows := by
      rw [alertIds, alertIds, List.map_map]
      refine List.map_congr_left fun row _ => ?_
      by_cases here : row.record.id = write.record.id
      · simp [here]
      · simp [here]
    rw [same]
    exact distinct
  · next free =>
    rw [alertIds, List.map_append]
    refine List.nodup_append.mpr ⟨distinct, List.pairwise_singleton _ _, ?_⟩
    intro id old other new same
    obtain ⟨row, among, rfl⟩ := List.mem_map.mp old
    obtain rfl := List.mem_singleton.mp new
    exact free (List.any_eq_true.mpr ⟨row, among, by simpa using same⟩)

end Fieldwatch.Tables
