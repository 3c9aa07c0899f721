import Fieldwatch.Proofs.Alert.Lives

/-!
# Histories of alerts

A stored record tells of the events that made it. A command that is carried out adds one event to
that history, and the record that comes of it tells of the longer one.
-/
namespace Fieldwatch

open Alert (eventsOf)

variable {record : AlertRecord} {state : AlertState}

/-! ## Records and states -/

/-- The state that a record is the flat form of. -/
def AlertRecord.toState (record : AlertRecord) : AlertState where
  id := some record.id
  sensorId := some record.sensorId
  kind := some record.kind
  severity := some record.severity
  message := record.message
  value := record.value
  threshold := record.threshold
  status := record.status
  raisedAt := some record.raisedAt
  acknowledgedAt := record.acknowledgedAt
  acknowledgedBy := record.acknowledgedBy
  resolvedAt := record.resolvedAt
  resolvedBy := record.resolvedBy
  resolutionNotes := record.resolutionNotes

theorem AlertState.toRecord?_eq_some_iff :
    state.toRecord? = some record ↔ state = record.toState := by
  constructor
  · intro flat
    simp only [toRecord?, Option.bind_eq_bind, Option.bind_eq_some_iff, Option.pure_def,
      Option.some.injEq] at flat
    obtain ⟨id, named, sensorId, placed, kind, sorted, severity, graded, raisedAt, dated, rfl⟩ :=
      flat
    rw [AlertRecord.toState, ← named, ← placed, ← sorted, ← graded, ← dated]
  · rintro rfl
    rfl

namespace AlertRecord

/-- Whether a record is what the events that it tells of make. -/
def Faithful (record : AlertRecord) : Prop :=
  (Tracked.replay AlertState.empty (eventsOf record)).toRecord? = some record

/-- The status that the marks of a record stand for. -/
def statusOf (acknowledgedAt resolvedAt : Option Instant) : AlertStatus :=
  if resolvedAt.isSome then .resolved
  else if acknowledgedAt.isSome then .acknowledged
  else .pending

variable {other : AlertRecord} {acknowledgedAt resolvedAt : Option Instant}

theorem statusOf_eq_pending_iff :
    statusOf acknowledgedAt resolvedAt = .pending ↔ acknowledgedAt = none ∧ resolvedAt = none := by
  cases acknowledgedAt <;> cases resolvedAt <;> simp [statusOf]

theorem statusOf_eq_resolved_iff :
    statusOf acknowledgedAt resolvedAt = .resolved ↔ resolvedAt.isSome := by
  cases acknowledgedAt <;> cases resolvedAt <;> simp [statusOf]

theorem faithful_iff : record.Faithful ↔
    record.status = statusOf record.acknowledgedAt record.resolvedAt ∧
      (record.acknowledgedAt = none → record.acknowledgedBy = none) ∧
      (record.resolvedAt = none → record.resolvedBy = none ∧ record.resolutionNotes = none) := by
  rcases record with ⟨id, sensorId, kind, severity, message, value, threshold, status, raisedAt,
    _ | seenAt, seenBy, _ | closedAt, closedBy, notes⟩
  all_goals
    simp [Faithful, eventsOf, Tracked.replay, EventSourced.apply, AlertState.apply,
      AlertState.empty, AlertState.toRecord?, statusOf, eq_comm]

/-- A record once an event after it was raised is told of. -/
def told (record : AlertRecord) : AlertEvent → AlertRecord
  | .raised _ => record
  | .acknowledged data =>
    { record with
      status := .acknowledged
      acknowledgedAt := some data.acknowledgedAt
      acknowledgedBy := data.acknowledgedBy }
  | .resolved data =>
    { record with
      status := .resolved
      resolvedAt := some data.resolvedAt
      resolvedBy := data.resolvedBy
      resolutionNotes := data.notes }

/-- Faithful records with one history are one. -/
theorem Faithful.eq_of_events (faithful : record.Faithful) (faithfulToo : other.Faithful)
    (same : eventsOf record = eventsOf other) : record = other := by
  unfold Faithful at faithful faithfulToo
  rw [same, faithfulToo] at faithful
  exact (Option.some.inj faithful).symm

theorem id_of_mem_eventsOf {event : AlertEvent} (member : event ∈ eventsOf record) :
    event.alertId = record.id := by
  unfold eventsOf at member
  rcases List.mem_append.mp member with early | late
  · rcases List.mem_append.mp early with first | second
    · obtain rfl := List.mem_singleton.mp first
      rfl
    · obtain ⟨moment, -, rfl⟩ := by simpa using second
      rfl
  · obtain ⟨moment, -, rfl⟩ := by simpa using late
    rfl

end AlertRecord

namespace Alert

/-- Whether an alert adds one event to a history, loaded at a version, and has a faithful record. -/
structure Adds (alert : Alert) (history : List AlertEvent) (version : Int)
    (record : AlertRecord) : Prop where
  row : alert.state.toRecord? = some record
  faithful : record.Faithful
  loaded : alert.version = version
  event : ∃ event, alert.pending = [event] ∧ eventsOf record = history ++ [event]

variable {version : Int} {alert : Alert}

/-- A raised alert begins a history. -/
theorem adds_of_raise {id : EntityId} {input : NewAlert} {now : Instant}
    (raised : raise id input now = .ok alert) :
    ∃ record, alert.Adds [] 0 record ∧ record.id = id := by
  unfold raise Faults.accept at raised
  split at raised
  · cases raised
    exact ⟨_, ⟨rfl, rfl, rfl, _, rfl, rfl⟩, rfl⟩
  · cases raised

/-! ## Commands on what was stored -/

/-- Whether a record is that of an alert, and is what the events that it tells of make. -/
structure Kept (alert : Alert) (record : AlertRecord) : Prop where
  state : alert.state = record.toState
  faithful : record.Faithful

variable {act : Act} {event : AlertEvent}

/-- The event that an act records makes the record of the alert the one that tells of it. -/
theorem Kept.recorded (kept : Kept alert record) (records : Records alert act event) :
    Kept (alert.record event) (record.told event) := by
  obtain ⟨status, seenBy, closed⟩ := AlertRecord.faithful_iff.mp kept.faithful
  have moved : (alert.record event).state = (record.told event).toState := by
    cases records <;> rw [Tracked.record, kept.state] <;> rfl
  refine ⟨moved, AlertRecord.faithful_iff.mpr ?_⟩
  cases records with
  | acknowledged allowed =>
    -- While an alert is pending, its record bears no time of a resolution.
    rw [kept.state] at allowed
    obtain ⟨-, unresolved⟩ := AlertRecord.statusOf_eq_pending_iff.mp (status.symm.trans allowed)
    exact ⟨by simp [AlertRecord.told, AlertRecord.statusOf, unresolved], by rintro ⟨⟩, closed⟩
  | resolved _ _ => exact ⟨rfl, seenBy, by rintro ⟨⟩⟩

/-- The event goes on with the history that the record tells of. -/
theorem Kept.eventsOf_told (kept : Kept alert record) (records : Records alert act event) :
    eventsOf (record.told event) = eventsOf record ++ [event] := by
  obtain ⟨status, -, -⟩ := AlertRecord.faithful_iff.mp kept.faithful
  cases records with
  | acknowledged allowed =>
    rw [kept.state] at allowed
    obtain ⟨unseen, unresolved⟩ :=
      AlertRecord.statusOf_eq_pending_iff.mp (status.symm.trans allowed)
    simp [AlertRecord.told, eventsOf, unseen, unresolved, kept.state, AlertRecord.toState]
  | resolved allowed _ =>
    rw [kept.state] at allowed
    have unresolved : record.resolvedAt = none := by
      rw [← Option.not_isSome_iff_eq_none, ← AlertRecord.statusOf_eq_resolved_iff, ← status]
      exact allowed
    simp [AlertRecord.told, eventsOf, unresolved, kept.state, AlertRecord.toState]

/-- A command that is carried out on what was stored adds to its history. -/
theorem adds_of_perform (faithful : record.Faithful) (command : act ≠ .commit)
    (carried : act.perform (restore record version) = .ok alert) :
    ∃ next, alert.Adds (eventsOf record) version next ∧ next.id = record.id ∧
      next.sensorId = record.sensorId := by
  have kept : Kept (restore record version) record :=
    ⟨AlertState.toRecord?_eq_some_iff.mp faithful, faithful⟩
  obtain ⟨event, records, rfl⟩ := (perform_eq_ok_iff command).mp carried
  have next := kept.recorded records
  refine ⟨record.told event, ⟨AlertState.toRecord?_eq_some_iff.mpr next.state, next.faithful, rfl,
    event, rfl, kept.eventsOf_told records⟩, ?_, ?_⟩
  all_goals cases records <;> rfl

variable {actor : Option OwnerId} {notes : Option String} {now : Instant} {unnamed : EntityId}

theorem adds_of_acknowledge (faithful : record.Faithful)
    (seen : (restore record version).acknowledge actor now unnamed = .ok alert) :
    ∃ next, alert.Adds (eventsOf record) version next ∧ next.id = record.id ∧
      next.sensorId = record.sensorId :=
  adds_of_perform faithful (show Act.acknowledge actor now unnamed ≠ .commit from nofun) seen

theorem adds_of_resolve (faithful : record.Faithful)
    (closed : (restore record version).resolve actor notes now unnamed = .ok alert) :
    ∃ next, alert.Adds (eventsOf record) version next ∧ next.id = record.id ∧
      next.sensorId = record.sensorId :=
  adds_of_perform faithful (show Act.resolve actor notes now unnamed ≠ .commit from nofun) closed

end Alert
end Fieldwatch
