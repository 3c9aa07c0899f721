import Fieldwatch.Proofs.Alert.History
import Fieldwatch.Proofs.Store.Writes
import Fieldwatch.Proofs.Text.Trimmed

/-!
# Keeping alerts

Restoring a record does not look at its status: it tells of the events that the times in it stand
for, and these make the status. A record comes back as it was kept, then, only if its status and
what goes with each time agree with the times. Every alert that was raised or restored has such a
record, whatever was done with it.
-/
namespace Fieldwatch

variable {record : AlertRecord}

/-! ## Records -/

namespace AlertRecord

/-- A record without what its times do not bear out. -/
def mended (record : AlertRecord) : AlertRecord :=
  { record with
    status := statusOf record.acknowledgedAt record.resolvedAt
    acknowledgedBy := record.acknowledgedAt.bind fun _ => record.acknowledgedBy
    resolvedBy := record.resolvedAt.bind fun _ => record.resolvedBy
    resolutionNotes := record.resolvedAt.bind fun _ => record.resolutionNotes }

/-- Whether a record fits the columns that it is kept in. -/
structure Fits (record : AlertRecord) : Prop where
  placed : record.sensorId ≠ .nil
  message_trimmed : Text.Trimmed record.message
  message_present : 1 ≤ record.message.length
  message_length : record.message.length ≤ 500
  notes_trimmed : ∀ notes ∈ record.resolutionNotes, Text.Trimmed notes
  notes_present : ∀ notes ∈ record.resolutionNotes, notes ≠ ""
  notes_length : ∀ notes ∈ record.resolutionNotes, notes.length ≤ 1000

end AlertRecord

namespace Alert

variable {start alert : Alert} {act : Act} {event : AlertEvent}

/-! ## Records of lives -/

/-- The record of an alert as it is raised. -/
def raisedRecord (id : EntityId) (input : NewAlert) (now : Instant) : AlertRecord where
  id := id
  sensorId := input.sensorId
  kind := input.kind
  severity := input.severity
  message := Text.trim input.message
  value := input.value
  threshold := input.threshold
  status := .pending
  raisedAt := now
  acknowledgedAt := none
  acknowledgedBy := none
  resolvedAt := none
  resolvedBy := none
  resolutionNotes := none

variable {id : EntityId} {input : NewAlert} {now : Instant}

theorem fits_raisedRecord (sound : (faults input).isEmpty) : (raisedRecord id input now).Fits := by
  simp only [faults, Faults.isEmpty, Faults.checkFinite, Faults.toList_check, Faults.toList_none,
    List.nil_append, List.isEmpty_iff, List.append_eq_nil_iff, ite_eq_right_iff, List.cons_ne_nil,
    imp_false, decide_eq_true_eq] at sound
  obtain ⟨⟨⟨⟨placed, present⟩, short⟩, -⟩, -⟩ := sound
  constructor
  case placed =>
    intro nowhere
    exact placed (congrArg Id.isNil nowhere)
  case message_trimmed => exact Text.trimmed_trim input.message
  case message_present => exact Nat.one_le_iff_ne_zero.mpr present
  case message_length => exact Nat.le_of_not_lt short
  all_goals rintro _ ⟨⟩

/-- A raised alert has a record, which fits. -/
theorem kept_of_raise (raised : raise id input now = .ok alert) :
    Kept alert (raisedRecord id input now) ∧ (raisedRecord id input now).Fits := by
  rw [raise, Faults.accept] at raised
  split_ifs at raised with sound
  cases raised
  exact ⟨⟨rfl, rfl⟩, fits_raisedRecord sound⟩

/-- A restored alert has a record, whatever it was restored from. -/
theorem kept_restore (record : AlertRecord) (version : Int) :
    Kept (restore record version) record.mended where
  state := by
    rcases record with ⟨id, sensorId, kind, severity, message, value, threshold, status, raisedAt,
      _ | seenAt, seenBy, _ | closedAt, closedBy, notes⟩
    all_goals rfl
  faithful := by
    refine AlertRecord.faithful_iff.mpr ⟨rfl, fun unseen => ?_, fun unresolved => ⟨?_, ?_⟩⟩
    · exact congrArg (Option.bind · fun _ => record.acknowledgedBy) unseen
    · exact congrArg (Option.bind · fun _ => record.resolvedBy) unresolved
    · exact congrArg (Option.bind · fun _ => record.resolutionNotes) unresolved

/-- An act that is carried out leaves a record that fits, if it did. -/
theorem Records.fits (records : Records alert act event) (fits : record.Fits) :
    (record.told event).Fits := by
  cases records with
  | acknowledged _ => exact { fits with }
  | @resolved _ notes _ _ _ short =>
    have trimmed (kept : String) (member : kept ∈ notes.bind Text.trimmed?) :
        Text.Trimmed kept ∧ kept ≠ "" := by
      obtain ⟨text, -, found⟩ := Option.bind_eq_some_iff.mp member
      exact Text.trimmed_of_trimmed? found
    exact { fits with
      notes_trimmed := fun kept member => (trimmed kept member).1
      notes_present := fun kept member => (trimmed kept member).2
      notes_length := short }

theorem Begun.kept (begun : Begun start) : ∃ record, Kept start record := by
  cases begun with
  | raised accepted => exact ⟨_, (kept_of_raise accepted).1⟩
  | restored record version => exact ⟨_, kept_restore record version⟩

/-- Whatever is done with an alert, it has a record, which fits if it did. -/
theorem Kept.live (kept : Kept start record) (acts : List Act) :
    ∃ last, Kept (Alert.live start acts).alert last ∧ (record.Fits → last.Fits) := by
  induction acts using List.reverseRecOn with
  | nil => exact ⟨record, kept, fun fits => fits⟩
  | append_singleton acts act ih =>
    obtain ⟨last, still, fits⟩ := ih
    rw [live_append_singleton]
    have step := lives_after (Alert.live start acts) act
    generalize (Alert.live start acts).after act = after at step
    cases step with
    | refused _ => exact ⟨last, still, fits⟩
    | @recorded _ event records =>
      exact ⟨last.told event, still.recorded records, fun first => records.fits (fits first)⟩
    | committed => exact ⟨last, ⟨still.state, still.faithful⟩, fits⟩

/-! ## Saves of lives -/

/-- A store that took a save of an alert last finds the alert as it was saved. -/
theorem alert?_of_commit {tables after : Tables} {changes : ChangeSet} {receipt : CommitReceipt}
    {before : List AlertWrite} {save : AlertWrite} (last : changes.alerts = before ++ [save])
    (committed : tables.commit changes = (.ok receipt, after)) :
    after.alert? save.record.id = some (restore save.record save.next) := by
  obtain ⟨-, -, applied⟩ := Tables.commit_eq_ok committed
  have row := (Tables.applies_applied tables changes).alerts save.record.id
  rw [applied, last, Tables.alertRowAfter, List.filter_append, List.foldl_append] at row
  have found : Tables.alertRow? after.alerts save.record.id = some ⟨save.record, save.next⟩ := by
    simpa using row
  exact congrArg (Option.map fun stored => restore stored.record stored.version) found

/-- Whether nothing of an alert is lost when it is kept as a record: the status and what goes with
each time are as the times say, and the alert that is restored from the record, or found in a store
that took its save, stands as it did. -/
structure Lossless (alert : Alert) (record : AlertRecord) : Prop where
  row : alert.state.toRecord? = some record
  status : record.status = AlertRecord.statusOf record.acknowledgedAt record.resolvedAt
  acknowledged : record.acknowledgedAt = none → record.acknowledgedBy = none
  resolved : record.resolvedAt = none → record.resolvedBy = none ∧ record.resolutionNotes = none
  restored : restore record alert.pendingVersion = ⟨alert.state, alert.pendingVersion, []⟩
  /-- Whatever is staged before the save, and with it. -/
  saved : ∀ base : ChangeSet, ∃ staged, base.saveAlert alert = .ok staged ∧
    ∀ changes : ChangeSet, changes.alerts = staged.alerts → ∀ (tables after : Tables) receipt,
      tables.commit changes = (.ok receipt, after) →
        (Backend.getAlert record.id : Access Tables (Option Alert)) after =
          (.ok (some (restore record alert.pendingVersion)), after)

theorem Kept.lossless (kept : Kept alert record) : Lossless alert record := by
  obtain ⟨status, acknowledged, resolved⟩ := AlertRecord.faithful_iff.mp kept.faithful
  have row := AlertState.toRecord?_eq_some_iff.mpr kept.state
  refine ⟨row, status, acknowledged, resolved, ?_, fun base => ?_⟩
  · have told := AlertState.toRecord?_eq_some_iff.mp kept.faithful
    rw [restore, told, ← kept.state]
    rfl
  · refine ⟨_, by rw [ChangeSet.saveAlert, row], ?_⟩
    intro changes same tables after receipt committed
    exact congrArg (fun found => (Except.ok found, after)) (alert?_of_commit same committed)

/-- An alert that was raised or restored is kept without loss, whatever was done with it. If it was
raised, its record fits. -/
theorem live_lossless (begun : Begun start) (acts : List Act) :
    ∃ record, Lossless (live start acts).alert record ∧
      ((∃ id input now, raise id input now = .ok start) → record.Fits) := by
  obtain ⟨first, begins⟩ := begun.kept
  obtain ⟨last, kept, fits⟩ := begins.live acts
  refine ⟨last, kept.lossless, ?_⟩
  rintro ⟨id, input, now, raised⟩
  obtain ⟨kept, sound⟩ := kept_of_raise raised
  -- A state has one record, so the raised one is the one that the run began with.
  obtain rfl : first = raisedRecord id input now := Option.some.inj <|
    (AlertState.toRecord?_eq_some_iff.mpr begins.state).symm.trans
      (AlertState.toRecord?_eq_some_iff.mpr kept.state)
  exact fits sound

/-- A trough is filled before anyone has seen that it was low, and all of it is saved at once. -/
theorem trough_lossless :
    (∃ staged receipt after,
      ChangeSet.empty.saveAlert
        (live troughRaised [.resolve none (some " filled ") .epoch ⟨0⟩]).alert = .ok staged ∧
      Tables.empty.commit staged = (.ok receipt, after)) ∧
    ∃ record,
      Lossless (live troughRaised [.resolve none (some " filled ") .epoch ⟨0⟩]).alert record ∧
        ((∃ id input now, raise id input now = .ok troughRaised) → record.Fits) :=
  ⟨⟨_, _, _, rfl, rfl⟩, live_lossless begun_troughRaised _⟩

end Alert
end Fieldwatch
