import Mathlib.Logic.Relation
import Fieldwatch.Proofs.Store.Writes

/-!
# Saves and versions

A save of an alert is taken when its copy is of the version that is stored as its commit begins.
From one commit to the next no save overwrites another unseen and no version decreases. Within one
change set saves of the same alert are checked before any of them is made, so that a save can be
made on top of another that it was not based on; `saves_based_on_commits` says exactly when.
-/
namespace Fieldwatch

/-! ## Versions -/

/-- The version of an alert once saves were made one by one. -/
def versionAfter (stored : Int) (saves : List AlertWrite) (id : EntityId) : Int :=
  saves.foldl (fun version save => if save.record.id = id then save.next else version) stored

theorem versionAfter_append (stored : Int) (earlier later : List AlertWrite) (id : EntityId) :
    versionAfter stored (earlier ++ later) id =
      versionAfter (versionAfter stored earlier id) later id :=
  List.foldl_append

/-- The version after saves is that of the last save of the alert, if there is one. -/
theorem versionAfter_cases (stored : Int) (saves : List AlertWrite) (id : EntityId) :
    versionAfter stored saves id = stored ∧ (∀ save ∈ saves, save.record.id ≠ id) ∨
      ∃ earlier last, (earlier, last) ∈ inTurn saves ∧ last.record.id = id ∧
        versionAfter stored saves id = last.next ∧
        ∀ save ∈ saves, save.record.id = id → save = last ∨ save ∈ earlier := by
  induction saves using List.reverseRecOn with
  | nil => exact .inl ⟨rfl, by rintro _ ⟨⟩⟩
  | append_singleton saves save ih =>
    have final : versionAfter stored (saves ++ [save]) id =
        if save.record.id = id then save.next else versionAfter stored saves id :=
      versionAfter_append stored saves [save] id
    rw [final, inTurn_append_singleton]
    by_cases here : save.record.id = id
    · rw [if_pos here]
      refine .inr ⟨saves, save, by simp, here, rfl, fun other member _ => ?_⟩
      rcases List.mem_append.mp member with old | new
      · exact .inr old
      · exact .inl (List.mem_singleton.mp new)
    · rw [if_neg here]
      have among {other : AlertWrite} (member : other ∈ saves ++ [save])
          (same : other.record.id = id) : other ∈ saves := by
        rcases List.mem_append.mp member with old | new
        · exact old
        · exact absurd (List.mem_singleton.mp new ▸ same) here
      rcases ih with ⟨unmoved, none⟩ | ⟨earlier, last, turn, same, version, rest⟩
      · refine .inl ⟨unmoved, fun other member same => ?_⟩
        exact none other (among member same) same
      · refine .inr ⟨earlier, last, List.mem_append_left _ turn, same, version, ?_⟩
        exact fun other member same => rest other (among member same) same

/-- Saves from one version that do not go back do not lower it. -/
theorem le_versionAfter {stored : Int} {saves : List AlertWrite} {id : EntityId}
    (agreed : ∀ save ∈ saves, save.record.id = id → save.expected = stored)
    (forward : ∀ save ∈ saves, save.expected ≤ save.next) :
    stored ≤ versionAfter stored saves id := by
  rcases versionAfter_cases stored saves id with ⟨unmoved, -⟩ | ⟨_, last, turn, same, version, -⟩
  · exact Int.le_of_eq unmoved.symm
  · have member := (mem_of_mem_inTurn turn).1
    rw [version, ← agreed last member same]
    exact forward last member

/-- A commit that is taken moves versions as its saves do one by one. -/
theorem Tables.alertVersion_applied (tables : Tables) (changes : ChangeSet) (id : EntityId) :
    (tables.applied changes).1.alertVersion id =
      versionAfter (tables.alertVersion id) changes.alerts id := by
  change ((alertRow? (changes.alerts.foldl putAlert tables.alerts) id).map
      StoredAlert.version).getD 0 =
    versionAfter (((alertRow? tables.alerts id).map StoredAlert.version).getD 0) changes.alerts id
  generalize tables.alerts = rows
  induction changes.alerts generalizing rows with
  | nil => rfl
  | cons save rest ih =>
    rw [List.foldl_cons, ih, alertRow?_putAlert]
    by_cases here : save.record.id = id <;> simp [versionAfter, here]

/-! ## Saves that are based on what is stored -/

/-- Whether each save, made in its turn on a store without alerts, is from a copy of the version
that is stored immediately before. -/
def Based (saves : List AlertWrite) : Prop :=
  ∀ earlier save, (earlier, save) ∈ inTurn saves →
    save.expected = versionAfter 0 earlier save.record.id

/-- Whether an alert is saved again in a change set only after saves with nothing pending. -/
def SavedOnce (saves : List AlertWrite) : Prop :=
  ∀ earlier save, (earlier, save) ∈ inTurn saves →
    ∀ prior ∈ earlier, prior.record.id = save.record.id → prior.next = prior.expected

/-- The saves of several change sets have their turns change set by change set. -/
theorem mem_inTurn_flatten {batches : List (List AlertWrite)} {earlier : List AlertWrite}
    {save : AlertWrite} : (earlier, save) ∈ inTurn batches.flatten ↔
      ∃ before batch, (before, batch) ∈ inTurn batches ∧
        ∃ first, (first, save) ∈ inTurn batch ∧ earlier = before.flatten ++ first := by
  induction batches generalizing earlier with
  | nil => simp [inTurn]
  | cons batch rest ih =>
    rw [List.flatten_cons, inTurn_append, List.mem_append]
    constructor
    · rintro (here | there)
      · exact ⟨[], batch, List.mem_cons_self, earlier, here, rfl⟩
      · obtain ⟨⟨later, _⟩, member, same⟩ := List.mem_map.mp there
        cases same
        obtain ⟨before, other, turn, first, within, rfl⟩ := ih.mp member
        refine ⟨batch :: before, other, ?_, first, within, (List.append_assoc _ _ _).symm⟩
        exact List.mem_cons_of_mem _ (List.mem_map.mpr ⟨(before, other), turn, rfl⟩)
    · rintro ⟨before, other, turn, first, within, rfl⟩
      rcases List.mem_cons.mp turn with same | later
      · cases same
        exact .inl within
      · obtain ⟨⟨before, _⟩, turn, same⟩ := List.mem_map.mp later
        cases same
        refine .inr (List.mem_map.mpr ⟨(before.flatten ++ first, save), ?_, ?_⟩)
        · exact ih.mpr ⟨before, other, turn, first, within, rfl⟩
        · rw [List.flatten_cons, List.append_assoc]

/-- Saves of one change set, all from the versions stored before it, are based on what is stored
exactly when no alert is saved again after a save with something pending. -/
theorem based_iff_savedOnce {stored : EntityId → Int} {batch : List AlertWrite}
    (agreed : ∀ save ∈ batch, save.expected = stored save.record.id) :
    (∀ first save, (first, save) ∈ inTurn batch →
        save.expected = versionAfter (stored save.record.id) first save.record.id) ↔
      SavedOnce batch := by
  constructor
  · intro based
    induction batch using List.reverseRecOn with
    | nil => rintro _ _ ⟨⟩
    | append_singleton batch last ih =>
      rw [inTurn_append_singleton] at based
      have once : SavedOnce batch := by
        refine ih (fun save member => agreed save (List.mem_append_left _ member)) ?_
        exact fun first save turn => based first save (List.mem_append_left _ turn)
      intro first save turn prior before same
      rw [inTurn_append_singleton] at turn
      rcases List.mem_append.mp turn with old | new
      · exact once first save old prior before same
      · cases List.mem_singleton.mp new
        -- The last save made before this one left the version that this one expects.
        have agrees := based batch last (List.mem_append_right _ List.mem_cons_self)
        rcases versionAfter_cases (stored last.record.id) batch last.record.id with
          ⟨-, none⟩ | ⟨earlier, other, turn, own, version, rest⟩
        · exact absurd same (none prior before)
        · rcases rest prior before same with rfl | among
          · rw [agreed prior (List.mem_append_left _ before), same,
              ← agreed last (List.mem_append_right _ List.mem_cons_self), agrees, version]
          · exact once earlier other turn prior among (same.trans own.symm)
  · intro once first save turn
    obtain ⟨here, before⟩ := mem_of_mem_inTurn turn
    rw [agreed save here]
    rcases versionAfter_cases (stored save.record.id) first save.record.id with
      ⟨unmoved, -⟩ | ⟨_, last, among, same, version, -⟩
    · exact unmoved.symm
    · have prior := (mem_of_mem_inTurn among).1
      rw [version, once _ save turn last prior same, agreed last (before prior), same]

/-! ## Runs of commits -/

/-- A save of an alert: its record with its pending events applied, from the version of the copy to
the version with those events. -/
structure AlertWrite.Saves (save : AlertWrite) (alert : Alert) : Prop where
  record : alert.state.toRecord? = some save.record
  expected : save.expected = alert.version
  next : save.next = alert.pendingVersion

/-- Staging the saves of alerts stages one save for each, in their order. -/
theorem ChangeSet.foldlM_saveAlert {rest changes : ChangeSet} {alerts : List Alert}
    (staged : alerts.foldlM saveAlert rest = .ok changes) :
    ∃ saves, changes.alerts = rest.alerts ++ saves ∧
      List.Forall₂ AlertWrite.Saves saves alerts := by
  induction alerts generalizing rest with
  | nil =>
    cases staged
    exact ⟨[], (List.append_nil _).symm, .nil⟩
  | cons alert others ih =>
    rw [List.foldlM_cons, saveAlert] at staged
    cases record : alert.state.toRecord? with
    | none =>
      rw [record] at staged
      cases staged
    | some made =>
      rw [record] at staged
      obtain ⟨saves, left, each⟩ := ih staged
      refine ⟨⟨made, alert.version, alert.pendingVersion⟩ :: saves, ?_,
        .cons ⟨record, rfl, rfl⟩ each⟩
      rw [left, List.append_assoc]
      rfl

/-- Saves do not go back: what is pending is added to the version of the copy. -/
theorem AlertWrite.le_of_saves {saves : List AlertWrite} {alerts : List Alert}
    (each : List.Forall₂ AlertWrite.Saves saves alerts) :
    ∀ save ∈ saves, save.expected ≤ save.next := by
  induction each with
  | nil => rintro _ ⟨⟩
  | cons first _ ih =>
    intro save member
    rcases List.mem_cons.mp member with rfl | later
    · rw [first.expected, first.next, Tracked.pendingVersion]
      omega
    · exact ih save later

/-- A store, with the saves of each commit that was taken, the oldest first. -/
structure Saving where
  tables : Tables
  taken : List (List AlertWrite)

namespace Saving

/-- The store once a change set was committed. A refused commit takes no saves, not even an empty
list of them. -/
def commit (state : Saving) (changes : ChangeSet) : Saving :=
  match state.tables.commit changes with
  | (.ok _, after) => ⟨after, state.taken ++ [changes.alerts]⟩
  | (.error _, after) => ⟨after, state.taken⟩

/-- A commit of a change set with the saves of any alerts, or the next commit set to fail. -/
inductive SavingStep (state : Saving) : Saving → Prop
  | failNext :
    SavingStep state { state with tables := { state.tables with failNextCommit := true } }
  | commit {rest changes : ChangeSet} {alerts : List Alert} (bare : rest.alerts = [])
    (staged : alerts.foldlM ChangeSet.saveAlert rest = .ok changes) :
    SavingStep state (state.commit changes)

abbrev SavingSteps : Saving → Saving → Prop := Relation.ReflTransGen SavingStep

/-- What holds after any commits: versions are those that the saves taken left one by one, and each
save taken was from the version stored before its commit, and did not go back. -/
structure Sound (state : Saving) : Prop where
  version : ∀ id, state.tables.alertVersion id = versionAfter 0 state.taken.flatten id
  agreed : ∀ earlier batch, (earlier, batch) ∈ inTurn state.taken →
    ∀ save ∈ batch, save.expected = versionAfter 0 earlier.flatten save.record.id
  forward : ∀ batch ∈ state.taken, ∀ save ∈ batch, save.expected ≤ save.next

theorem Sound.step {state next : Saving} (sound : Sound state) (step : SavingStep state next) :
    Sound next := by
  cases step with
  | failNext => exact ⟨sound.version, sound.agreed, sound.forward⟩
  | @commit rest changes alerts bare staged =>
    rcases Tables.commit_cases state.tables changes with ⟨error, refused, -⟩ | ⟨applied, current⟩
    · rw [commit, refused]
      exact ⟨sound.version, sound.agreed, sound.forward⟩
    · rw [commit, applied]
      have agrees {save : AlertWrite} (member : save ∈ changes.alerts) :
          state.tables.alertVersion save.record.id = save.expected := by
        by_contra stale
        exact current _ (.stale member stale)
      constructor
      · intro id
        rw [Tables.alertVersion_applied, sound.version id, List.flatten_append, versionAfter_append,
          List.flatten_singleton]
      · intro earlier batch turn save member
        rw [inTurn_append_singleton] at turn
        rcases List.mem_append.mp turn with old | new
        · exact sound.agreed earlier batch old save member
        · cases List.mem_singleton.mp new
          exact (agrees member).symm.trans (sound.version _)
      · intro batch member save within
        rcases List.mem_append.mp member with old | new
        · exact sound.forward batch old save within
        · obtain rfl := List.mem_singleton.mp new
          obtain ⟨saves, left, each⟩ := ChangeSet.foldlM_saveAlert staged
          rw [left, bare, List.nil_append] at within
          exact AlertWrite.le_of_saves each save within

theorem sound_of_steps {state : Saving} (steps : SavingSteps ⟨.empty, []⟩ state) : Sound state := by
  induction steps with
  | refl => exact ⟨fun _ => rfl, by rintro _ _ ⟨⟩, by rintro _ ⟨⟩⟩
  | tail _ step ih => exact ih.step step

/-- In a run of commits from the empty store, with any number of saves in a change set, an alert is
at the version that the saves taken left one by one, each save taken was from the version that was
stored before its commit, and from one commit to the next no version decreases; a commit with a
save from another version is refused and changes nothing. Each save taken is from the version
stored immediately before it exactly when no change set saves an alert again after a save of it
with something pending. -/
theorem saves_based_on_commits {state : Saving} (steps : SavingSteps ⟨.empty, []⟩ state) :
    (∀ id, state.tables.alertVersion id = versionAfter 0 state.taken.flatten id) ∧
      (∀ earlier batch, (earlier, batch) ∈ inTurn state.taken →
        (∀ save ∈ batch, save.expected = versionAfter 0 earlier.flatten save.record.id) ∧
        ∀ id, versionAfter 0 earlier.flatten id ≤ versionAfter 0 (earlier ++ [batch]).flatten id) ∧
      (∀ changes, (∃ save ∈ changes.alerts,
          save.expected ≠ state.tables.alertVersion save.record.id) →
        ∃ error, state.tables.commit changes =
            (.error error, { state.tables with failNextCommit := false }) ∧
          state.tables.Refuses changes error) ∧
      (Based state.taken.flatten ↔ ∀ batch ∈ state.taken, SavedOnce batch) := by
  have sound := sound_of_steps steps
  refine ⟨sound.version, fun earlier batch turn => ⟨sound.agreed earlier batch turn, fun id => ?_⟩,
    fun changes stale => ?_, ?_⟩
  · rw [List.flatten_append, List.flatten_singleton, versionAfter_append]
    refine le_versionAfter ?_ (sound.forward batch (mem_of_mem_inTurn turn).1)
    rintro save member rfl
    exact sound.agreed earlier batch turn save member
  · rcases Tables.commit_cases state.tables changes with refused | ⟨-, current⟩
    · exact refused
    · obtain ⟨save, member, stale⟩ := stale
      exact absurd (.stale member (Ne.symm stale)) (current _)
  · have batchwise {before : List (List AlertWrite)} {batch : List AlertWrite}
        (turn : (before, batch) ∈ inTurn state.taken) :
        (∀ first save, (first, save) ∈ inTurn batch → save.expected =
          versionAfter (versionAfter 0 before.flatten save.record.id) first save.record.id) ↔
        SavedOnce batch :=
      based_iff_savedOnce (sound.agreed before batch turn)
    constructor
    · intro based batch member
      obtain ⟨before, later, split⟩ := List.append_of_mem member
      have turn := mem_inTurn.mpr ⟨later, split⟩
      refine (batchwise turn).mp fun first save within => ?_
      rw [← versionAfter_append]
      exact based _ save (mem_inTurn_flatten.mpr ⟨before, batch, turn, first, within, rfl⟩)
    · intro once earlier save there
      obtain ⟨before, batch, turn, first, within, rfl⟩ := mem_inTurn_flatten.mp there
      rw [versionAfter_append]
      exact (batchwise turn).mpr (once batch (mem_of_mem_inTurn turn).1) first save within

/-- The record of an alert, as it is raised. -/
def leak : AlertRecord :=
  ⟨⟨1⟩, ⟨1⟩, .custom, .high, "Tank leaks", none, none, .pending, .epoch, none, none, none, none,
    none⟩

/-- The alert, raised and not yet stored. -/
def leakRaised : Alert :=
  Tracked.new.record (.raised ⟨⟨1⟩, ⟨1⟩, .custom, .high, "Tank leaks", none, none, .epoch⟩)

/-- One copy of it, acknowledged. -/
def leakSeen : Alert := (Alert.restore leak 1).record (.acknowledged ⟨⟨1⟩, none, .epoch⟩)

/-- Another copy of it, acknowledged and resolved. -/
def leakMended : Alert :=
  ((Alert.restore leak 1).record (.acknowledged ⟨⟨1⟩, none, .epoch⟩)).record
    (.resolved ⟨⟨1⟩, none, some "Patched", .epoch⟩)

/-- The record of that copy. -/
def mended : AlertRecord :=
  { leak with
    status := .resolved, acknowledgedAt := some .epoch, resolvedAt := some .epoch
    resolutionNotes := some "Patched" }

/-- The record of the copy that was only acknowledged. -/
def seen : AlertRecord := { leak with status := .acknowledged, acknowledgedAt := some .epoch }

/-- The store once the alert was raised. -/
def leakStored : Saving := commit ⟨.empty, []⟩ { alerts := [⟨leak, 0, 1⟩] }

/-- The store once both copies were saved in one change set. -/
def leakReopened : Saving := leakStored.commit { alerts := [⟨mended, 1, 3⟩, ⟨seen, 1, 2⟩] }

theorem steps_leakReopened : SavingSteps ⟨.empty, []⟩ leakReopened := by
  have raised : SavingStep ⟨.empty, []⟩ leakStored :=
    @SavingStep.commit ⟨.empty, []⟩ .empty _ [leakRaised] rfl rfl
  have saved : SavingStep leakStored leakReopened :=
    @SavingStep.commit leakStored .empty _ [leakMended, leakSeen] rfl rfl
  exact (Relation.ReflTransGen.single raised).tail saved

/-- The second of two saves of one change set is made on top of the first, though it is not based
on it: the alert goes back from version 3, resolved, to version 2, acknowledged. -/
theorem unseen_save_overwritten :
    SavingSteps ⟨.empty, []⟩ leakReopened ∧
      ([⟨leak, 0, 1⟩, ⟨mended, 1, 3⟩], ⟨seen, 1, 2⟩) ∈ inTurn leakReopened.taken.flatten ∧
      versionAfter 0 [⟨leak, 0, 1⟩, ⟨mended, 1, 3⟩] seen.id = 3 ∧
      leakReopened.tables.alerts = [⟨seen, 2⟩] ∧
      ¬ Based leakReopened.taken.flatten := by
  have turn : ([⟨leak, 0, 1⟩, ⟨mended, 1, 3⟩], ⟨seen, 1, 2⟩) ∈ inTurn leakReopened.taken.flatten :=
    mem_inTurn.mpr ⟨[], rfl⟩
  refine ⟨steps_leakReopened, turn, rfl, rfl, fun based => ?_⟩
  have backwards : (1 : Int) = 3 := based _ _ turn
  revert backwards
  decide

/-- In that run every save was from the version stored before its commit, and yet not every save
was from the version stored immediately before it. -/
theorem saves_based_on_commits_leakReopened :
    (∀ id, leakReopened.tables.alertVersion id = versionAfter 0 leakReopened.taken.flatten id) ∧
      (∀ earlier batch, (earlier, batch) ∈ inTurn leakReopened.taken →
        (∀ save ∈ batch, save.expected = versionAfter 0 earlier.flatten save.record.id) ∧
        ∀ id, versionAfter 0 earlier.flatten id ≤ versionAfter 0 (earlier ++ [batch]).flatten id) ∧
      (∀ changes, (∃ save ∈ changes.alerts,
          save.expected ≠ leakReopened.tables.alertVersion save.record.id) →
        ∃ error, leakReopened.tables.commit changes =
            (.error error, { leakReopened.tables with failNextCommit := false }) ∧
          leakReopened.tables.Refuses changes error) ∧
      (Based leakReopened.taken.flatten ↔ ∀ batch ∈ leakReopened.taken, SavedOnce batch) :=
  saves_based_on_commits steps_leakReopened

end Saving
end Fieldwatch
