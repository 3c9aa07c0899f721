import Fieldwatch.Proofs.Alert.Races

/-!
# Each event once

However calls overlap, the entries staged for an alert tell of one history: it was raised, then
acknowledged at most once, then resolved at most once. The row of the alert is what that history
makes, at the version that is its length, and every copy in use is of a beginning of it.
-/
namespace Fieldwatch.Alerts

open Alert (eventsOf)
open Ingest (Commits Fresh Stored quietFarm)
open Tables (alertIds)

/-! ## What entries tell -/

/-- The entries of an alert among those staged. -/
def entriesOf (staged : List OutboxEntry) (id : EntityId) : List OutboxEntry :=
  staged.filter fun entry => entry.envelope.aggregateId = id

theorem entriesOf_concat_own {staged : List OutboxEntry} {entry : OutboxEntry} {id : EntityId}
    (own : entry.envelope.aggregateId = id) :
    entriesOf (staged ++ [entry]) id = entriesOf staged id ++ [entry] := by
  simp [entriesOf, List.filter_append, own]

theorem entriesOf_concat_other {staged : List OutboxEntry} {entry : OutboxEntry} {id : EntityId}
    (other : entry.envelope.aggregateId ≠ id) :
    entriesOf (staged ++ [entry]) id = entriesOf staged id := by
  simp [entriesOf, List.filter_append, other]

/-- Whether entries tell of the events of an alert, each of one, in their order. -/
def Told (sensorId : SensorId) (events : List AlertEvent) (entries : List OutboxEntry) : Prop :=
  List.Forall₂ (fun event entry => ∃ correlationId,
    OutboxEntry.Tells entry correlationId (.alert sensorId event)) events entries

/-- Whether a record stands as integration events tell. -/
structure StandsAs (record : AlertRecord) (raised : Event.AlertRaised)
    (acknowledged : Option Event.AlertAcknowledged) (resolved : Option Event.AlertResolved) :
    Prop where
  id : raised.alertId = record.id
  sensorId : raised.sensorId = record.sensorId
  kind : raised.kind = record.kind.name
  severity : raised.severity = record.severity.name
  message : raised.message = record.message
  value : raised.value = record.value
  threshold : raised.threshold = record.threshold
  raisedAt : raised.occurredOn = record.raisedAt
  status : record.status = if resolved.isSome then .resolved
    else if acknowledged.isSome then .acknowledged else .pending
  acknowledgedAt : record.acknowledgedAt = acknowledged.map (·.occurredOn)
  acknowledgedBy : record.acknowledgedBy = acknowledged.bind (·.acknowledgedBy)
  resolvedAt : record.resolvedAt = resolved.map (·.occurredOn)
  resolvedBy : record.resolvedBy = resolved.bind (·.resolvedBy)
  resolutionNotes : record.resolutionNotes = resolved.bind (·.notes)

/-- The messages of an alert that was raised, and perhaps acknowledged, and perhaps resolved. -/
def messages (raised : Event.AlertRaised) (acknowledged : Option Event.AlertAcknowledged)
    (resolved : Option Event.AlertResolved) : List Message :=
  .alertRaised raised :: acknowledged.toList.map .alertAcknowledged
    ++ resolved.toList.map .alertResolved

/-- An entry that tells that an alert was raised opens to such an event. -/
theorem opens_raised {sensorId : SensorId} {data : AlertRaised} {entry : OutboxEntry}
    (tells : ∃ correlationId,
      OutboxEntry.Tells entry correlationId (.alert sensorId (.raised data))) :
    ∃ event, Message.ofEnvelope entry.envelope = .ok (.alertRaised event) ∧
      DomainEvent.CarriedBy (.alert sensorId (.raised data)) (.alertRaised event) := by
  obtain ⟨_, told⟩ := tells
  obtain ⟨message, opened, carried, -⟩ := told.carried
  cases message with
  | alertRaised event => exact ⟨event, opened, carried⟩
  | _ => exact carried.elim

theorem opens_acknowledged {sensorId : SensorId} {data : AlertAcknowledged} {entry : OutboxEntry}
    (tells : ∃ correlationId,
      OutboxEntry.Tells entry correlationId (.alert sensorId (.acknowledged data))) :
    ∃ event, Message.ofEnvelope entry.envelope = .ok (.alertAcknowledged event) ∧
      DomainEvent.CarriedBy (.alert sensorId (.acknowledged data)) (.alertAcknowledged event) := by
  obtain ⟨_, told⟩ := tells
  obtain ⟨message, opened, carried, -⟩ := told.carried
  cases message with
  | alertAcknowledged event => exact ⟨event, opened, carried⟩
  | _ => exact carried.elim

theorem opens_resolved {sensorId : SensorId} {data : AlertResolved} {entry : OutboxEntry}
    (tells : ∃ correlationId,
      OutboxEntry.Tells entry correlationId (.alert sensorId (.resolved data))) :
    ∃ event, Message.ofEnvelope entry.envelope = .ok (.alertResolved event) ∧
      DomainEvent.CarriedBy (.alert sensorId (.resolved data)) (.alertResolved event) := by
  obtain ⟨_, told⟩ := tells
  obtain ⟨message, opened, carried, -⟩ := told.carried
  cases message with
  | alertResolved event => exact ⟨event, opened, carried⟩
  | _ => exact carried.elim

/-- Entries that tell of the history of a record open to messages by which it stands. -/
theorem standsAs_of_told {record : AlertRecord} (faithful : record.Faithful)
    {entries : List OutboxEntry} (told : Told record.sensorId (eventsOf record) entries) :
    ∃ raised acknowledged resolved,
      entries.map (fun entry => Message.ofEnvelope entry.envelope) =
        (messages raised acknowledged resolved).map .ok ∧
      StandsAs record raised acknowledged resolved := by
  obtain ⟨status, unseen, unclosed⟩ := AlertRecord.faithful_iff.mp faithful
  rcases record with ⟨id, sensorId, kind, severity, message, value, threshold, _, raisedAt,
    _ | seenAt, seenBy, _ | closedAt, closedBy, notes⟩
  all_goals dsimp only at status; subst status
  · obtain ⟨rfl, rfl⟩ := unclosed rfl
    obtain rfl := unseen rfl
    rcases told with _ | ⟨first, _ | _⟩
    obtain ⟨raised, opened, named, placed, graded, weighed, worded, valued, limited, timed⟩ :=
      opens_raised first
    refine ⟨raised, none, none, by simp [messages, opened], ?_⟩
    exact ⟨named, placed, graded, weighed, worded, valued, limited, timed, rfl, rfl, rfl, rfl,
      rfl, rfl⟩
  · obtain rfl := unseen rfl
    rcases told with _ | ⟨first, _ | ⟨second, _ | _⟩⟩
    obtain ⟨raised, opened, named, placed, graded, weighed, worded, valued, limited, timed⟩ :=
      opens_raised first
    obtain ⟨resolved, closing, -, -, by_, noted, closedAt⟩ := opens_resolved second
    refine ⟨raised, none, some resolved, by simp [messages, opened, closing], ?_⟩
    exact ⟨named, placed, graded, weighed, worded, valued, limited, timed, rfl, rfl, rfl,
      congrArg some closedAt.symm, by_.symm, noted.symm⟩
  · obtain ⟨rfl, rfl⟩ := unclosed rfl
    rcases told with _ | ⟨first, _ | ⟨second, _ | _⟩⟩
    obtain ⟨raised, opened, named, placed, graded, weighed, worded, valued, limited, timed⟩ :=
      opens_raised first
    obtain ⟨acknowledged, seeing, -, -, by_, seenAt⟩ := opens_acknowledged second
    refine ⟨raised, some acknowledged, none, by simp [messages, opened, seeing], ?_⟩
    exact ⟨named, placed, graded, weighed, worded, valued, limited, timed, rfl,
      congrArg some seenAt.symm, by_.symm, rfl, rfl, rfl⟩
  · rcases told with _ | ⟨first, _ | ⟨second, _ | ⟨third, _ | _⟩⟩⟩
    obtain ⟨raised, opened, named, placed, graded, weighed, worded, valued, limited, timed⟩ :=
      opens_raised first
    obtain ⟨acknowledged, seeing, -, -, seer, seenAt⟩ := opens_acknowledged second
    obtain ⟨resolved, closing, -, -, closer, noted, closedAt⟩ := opens_resolved third
    refine ⟨raised, some acknowledged, some resolved,
      by simp [messages, opened, seeing, closing], ?_⟩
    exact ⟨named, placed, graded, weighed, worded, valued, limited, timed, rfl,
      congrArg some seenAt.symm, seer.symm, congrArg some closedAt.symm, closer.symm, noted.symm⟩

/-! ## Saves -/

/-- What a save of an alert with one event pending stores: its row, and one entry for the event. -/
theorem saved_of_adds {tables after : Tables} {correlationId : CorrelationId} {alert : Alert}
    {history : List AlertEvent} {version : Int} {next : AlertRecord} {entries : List OutboxEntry}
    (adds : alert.Adds history version next)
    (stored : Stored tables after correlationId [.alert alert] entries) :
    after.alerts = Tables.putAlert tables.alerts ⟨next, version, version + 1⟩ ∧
      ∃ event entry, entries = [entry] ∧ eventsOf next = history ++ [event] ∧
        OutboxEntry.Tells entry correlationId (.alert next.sensorId event) ∧
        entry.envelope.aggregateId = next.id := by
  obtain ⟨event, pending, events⟩ := adds.event
  have raised : alert.state.sensorId = some next.sensorId :=
    AlertState.sensorId_of_toRecord? adds.row
  constructor
  · have write : Saved.write? (.alert alert) = some ⟨next, version, version + 1⟩ := by
      simp [Saved.write?, adds.row, adds.loaded, Tracked.pendingVersion, pending]
    have alerts := congrArg Tables.alerts stored.store
    simpa [write] using alerts
  · have told := stored.told
    simp only [List.flatMap_cons, List.flatMap_nil, List.append_nil, Saved.events, raised, pending,
      List.map_cons, List.map_nil] at told
    rcases told with _ | ⟨tells, _ | _⟩
    refine ⟨event, _, rfl, events, tells, tells.aggregateId.trans ?_⟩
    exact AlertRecord.id_of_mem_eventsOf (events ▸ List.mem_append_right _ List.mem_cons_self)

/-- A save that was taken was made from a copy at the stored version. -/
theorem agreed_of_commits {context : OperationContext} {world after : World Tables} {alert : Alert}
    {history : List AlertEvent} {version : Int} {next : AlertRecord}
    (adds : alert.Adds history version next)
    (commits : Commits context [.alert alert] world after) :
    world.store.alertVersion next.id = version := by
  obtain ⟨changes, stages, committed⟩ := commits.committed
  have write : Saved.write? (.alert alert) = some ⟨next, version, alert.pendingVersion⟩ := by
    simp [Saved.write?, adds.row, adds.loaded]
  have alerts : changes.alerts = [⟨next, version, alert.pendingVersion⟩] := by
    simpa [ChangeSet.empty, write] using stages.alerts
  rcases committed with ⟨empty, -⟩ | ⟨receipt, committed⟩
  · simp [ChangeSet.isEmpty, ChangeSet.size, alerts] at empty
  · obtain ⟨-, agreed, -⟩ := Tables.commit_eq_ok committed
    exact Tables.expected_of_conflict? agreed (alerts ▸ List.mem_cons_self)

/-! ## The invariant -/

/-- What holds at any point, where identifiers were drawn from `low` on and these entries were
staged: each row is what the history makes that its entries tell, at the version that is its
length, and each copy is of a beginning of the history of a row. -/
structure Consistent (low : Nat) (staged : List OutboxEntry) (state : State) : Prop where
  reached : low ≤ state.world.ids.used
  faithful : ∀ row ∈ state.world.store.alerts, row.record.Faithful
  version : ∀ row ∈ state.world.store.alerts, row.version = (eventsOf row.record).length
  told : ∀ row ∈ state.world.store.alerts,
    Told row.record.sensorId (eventsOf row.record) (entriesOf staged row.record.id)
  single : (alertIds state.world.store.alerts).Nodup
  known : ∀ entry ∈ staged, entry.envelope.aggregateId ∈ alertIds state.world.store.alerts
  drawn : ∀ id ∈ alertIds state.world.store.alerts, ∃ place, low ≤ place ∧
    place < state.world.ids.used ∧ id.value = state.world.ids.draw place
  copies : ∀ copy ∈ state.copies, ∃ record, record.Faithful ∧
    copy = .restore record (eventsOf record).length ∧
    ∃ row ∈ state.world.store.alerts, row.record.id = record.id ∧
      eventsOf record <+: eventsOf row.record

/-- Whether a history is that of the row of an alert, or of an alert that has none yet. -/
def IsCurrent (rows : List StoredAlert) (id : EntityId) (sensorId : SensorId)
    (history : List AlertEvent) : Prop :=
  (∃ row ∈ rows, row.record.id = id ∧ row.record.sensorId = sensorId ∧
    eventsOf row.record = history) ∨ history = [] ∧ id ∉ alertIds rows

namespace Consistent

variable {low : Nat} {staged entries : List OutboxEntry} {world after : World Tables}
  {copies : List Alert}

/-- A world that drew on and holds what it held is as good. -/
theorem of_holdsAs (consistent : Consistent low staged ⟨world, copies⟩)
    (follows : world.Follows after) (holds : after.store.HoldsAs world.store) :
    Consistent low staged ⟨after, copies⟩ where
  reached := Nat.le_trans consistent.reached follows.used
  faithful := by rw [holds.alerts]; exact consistent.faithful
  version := by rw [holds.alerts]; exact consistent.version
  told := by rw [holds.alerts]; exact consistent.told
  single := by rw [holds.alerts]; exact consistent.single
  known := by rw [holds.alerts]; exact consistent.known
  drawn := by
    rw [holds.alerts, follows.draw]
    intro id member
    obtain ⟨place, above, before, same⟩ := consistent.drawn id member
    exact ⟨place, above, Nat.lt_of_lt_of_le before follows.used, same⟩
  copies := by rw [holds.alerts]; exact consistent.copies

/-- A copy may be loaded. -/
theorem load (consistent : Consistent low staged ⟨world, copies⟩) {id : EntityId} {copy : Alert}
    (found : world.store.alert? id = some copy) :
    Consistent low staged ⟨world, copy :: copies⟩ :=
  { consistent with
    copies := by
      intro held member
      rcases List.mem_cons.mp member with rfl | old
      · obtain ⟨row, there, -, same⟩ := Tables.alert?_eq_some found
        rw [consistent.version row there] at same
        exact ⟨row.record, consistent.faithful row there, same, row, there, rfl,
          List.prefix_refl _⟩
      · exact consistent.copies held old }

/-- The entries of an alert tell of its current history. -/
theorem told_current (consistent : Consistent low staged ⟨world, copies⟩) {id : EntityId}
    {sensorId : SensorId} {history : List AlertEvent}
    (current : IsCurrent world.store.alerts id sensorId history) :
    Told sensorId history (entriesOf staged id) := by
  rcases current with ⟨row, there, rfl, rfl, rfl⟩ | ⟨rfl, new⟩
  · exact consistent.told row there
  · have none : entriesOf staged id = [] := by
      refine List.filter_eq_nil_iff.mpr fun other member => ?_
      have there := consistent.known other member
      simpa using fun same : other.envelope.aggregateId = id => new (same ▸ there)
    rw [none]
    exact .nil

/-- A save may add one event to the history of a row, or begin that of a new alert. -/
theorem save (consistent : Consistent low staged ⟨world, copies⟩) (follows : world.Follows after)
    {correlationId : CorrelationId} {alert : Alert} {history : List AlertEvent}
    {next : AlertRecord} (adds : alert.Adds history history.length next)
    (stored : Stored world.store after.store correlationId [.alert alert] entries)
    (current : IsCurrent world.store.alerts next.id next.sensorId history)
    (place : ∃ place, low ≤ place ∧ place < after.ids.used ∧
      next.id.value = world.ids.draw place) :
    Consistent low (staged ++ entries) ⟨after, copies⟩ := by
  obtain ⟨alerts, event, entry, rfl, events, tells, owned⟩ := saved_of_adds adds stored
  have rows {row : StoredAlert} : row ∈ after.store.alerts ↔
      row = ⟨next, (history.length : Int) + 1⟩ ∨
        row ∈ world.store.alerts ∧ row.record.id ≠ next.id := by
    rw [alerts]
    exact Tables.mem_putAlert
  have ids {id : EntityId} : id ∈ alertIds after.store.alerts ↔
      id = next.id ∨ id ∈ alertIds world.store.alerts := by
    rw [alerts]
    exact Tables.mem_alertIds_putAlert
  constructor
  case reached => exact Nat.le_trans consistent.reached follows.used
  case faithful =>
    intro row member
    rcases rows.mp member with rfl | ⟨old, -⟩
    · exact adds.faithful
    · exact consistent.faithful row old
  case version =>
    intro row member
    rcases rows.mp member with rfl | ⟨old, -⟩
    · simp [events]
    · exact consistent.version row old
  case told =>
    intro row member
    rcases rows.mp member with rfl | ⟨old, other⟩
    · rw [entriesOf_concat_own owned, events]
      exact List.rel_append (consistent.told_current current) (.cons ⟨_, tells⟩ .nil)
    · rw [entriesOf_concat_other (owned ▸ other.symm)]
      exact consistent.told row old
  case single =>
    rw [alerts]
    exact Tables.nodup_putAlert consistent.single
  case known =>
    intro other member
    rcases List.mem_append.mp member with old | new
    · exact ids.mpr (.inr (consistent.known other old))
    · obtain rfl := List.mem_singleton.mp new
      exact ids.mpr (.inl owned)
  case drawn =>
    intro id member
    rw [follows.draw]
    rcases ids.mp member with rfl | old
    · exact place
    · obtain ⟨place, above, before, same⟩ := consistent.drawn id old
      exact ⟨place, above, Nat.lt_of_lt_of_le before follows.used, same⟩
  case copies =>
    intro copy member
    obtain ⟨record, faithful, same, row, there, named, begins⟩ := consistent.copies copy member
    refine ⟨record, faithful, same, ?_⟩
    by_cases here : row.record.id = next.id
    · rcases current with ⟨other, among, namedToo, -, rfl⟩ | ⟨-, new⟩
      · -- The row that the copy is of is the one that the save goes on with.
        obtain rfl : row = other :=
          List.inj_on_of_nodup_map consistent.single there among (here.trans namedToo.symm)
        refine ⟨_, rows.mpr (.inl rfl), here.symm.trans named, ?_⟩
        rw [events]
        exact begins.trans (List.prefix_append _ _)
      · exact absurd (here ▸ List.mem_map_of_mem there) new
    · exact ⟨row, rows.mpr (.inr ⟨there, here⟩), named, begins⟩

/-- A save from a copy goes on with the row of its alert, or is not taken. -/
theorem advance (consistent : Consistent low staged ⟨world, copies⟩) {high : Nat}
    (fresh : Fresh world.store world.ids.draw world.ids.used high) (reach : after.ids.used ≤ high)
    {context : OperationContext} {alert : Alert} {record next : AlertRecord} {row : StoredAlert}
    (faithful : record.Faithful)
    (adds : alert.Adds (eventsOf record) (eventsOf record).length next)
    (named : next.id = record.id) (placed : next.sensorId = record.sensorId)
    (there : row ∈ world.store.alerts) (same : row.record.id = record.id)
    (begins : eventsOf record <+: eventsOf row.record)
    (commits : Commits context [.alert alert] world after) :
    ∃ entries, after.store.outbox = world.store.outbox ++ entries ∧
      Consistent low (staged ++ entries) ⟨after, copies⟩ ∧
      Fresh after.store world.ids.draw after.ids.used high := by
  have agreed := agreed_of_commits adds commits
  rw [named, ← same, Tables.alertVersion_of_mem consistent.single there,
    consistent.version row there] at agreed
  have events : eventsOf record = eventsOf row.record :=
    begins.eq_of_length (Int.ofNat_inj.mp agreed).symm
  obtain rfl : record = row.record :=
    faithful.eq_of_events (consistent.faithful row there) events
  obtain ⟨entries, stored, rest⟩ := commits.fresh fresh reach
  obtain ⟨place, above, before, drawn⟩ :=
    consistent.drawn row.record.id (List.mem_map_of_mem there)
  refine ⟨entries, congrArg Tables.outbox stored.store, ?_, rest⟩
  refine consistent.save commits.follows adds stored ?_ ?_
  · exact .inl ⟨row, there, named.symm, placed.symm, rfl⟩
  · exact ⟨place, above, Nat.lt_of_lt_of_le before commits.follows.used, named ▸ drawn⟩

end Consistent

/-! ## Runs -/

theorem AlertStep.follows {state next : State} (step : AlertStep state next) :
    state.world.Follows next.world := by
  cases step with
  | pause clock drawn failing => exact World.pause_follows _ clock drawn failing
  | @call world _ _ context _ part held ran =>
    have follows := (part.run_atomic context world).1
    rw [ran] at follows
    exact follows

/-- One step stages the entries of one event at most, and leaves things consistent. -/
theorem Consistent.step {low high : Nat} {staged : List OutboxEntry} {state next : State}
    (consistent : Consistent low staged state) (step : AlertStep state next)
    (distinct : ∀ i j, low ≤ i → i < j → j < high →
      state.world.ids.draw i ≠ state.world.ids.draw j)
    (fresh : Fresh state.world.store state.world.ids.draw state.world.ids.used high)
    (reach : next.world.ids.used ≤ high) :
    ∃ entries, next.world.store.outbox = state.world.store.outbox ++ entries ∧
      Consistent low (staged ++ entries) next ∧
      Fresh next.world.store state.world.ids.draw next.world.ids.used high := by
  have follows := step.follows
  have idle {world : World Tables} (holds : world.store.HoldsAs state.world.store) :
      world.store.outbox = state.world.store.outbox ++ [] :=
    holds.outbox.trans (List.append_nil _).symm
  cases step with
  | @pause world _ clock drawn failing =>
    have holds := world.pause_holdsAs clock drawn failing
    refine ⟨[], idle holds, ?_, fresh.of_holdsAs follows.used holds⟩
    rw [List.append_nil]
    exact consistent.of_holdsAs follows holds
  | @call world after copies context result part held ran =>
    cases result with
    | error error =>
      have holds := (part.run_atomic context world).2 error (by rw [ran])
      rw [ran] at holds
      refine ⟨[], idle holds, ?_, fresh.of_holdsAs follows.used holds⟩
      have none : part.loads (.error error) = [] := by cases part <;> rfl
      rw [List.append_nil, none]
      exact consistent.of_holdsAs follows holds
    | ok answer =>
      cases part with
      | raise input =>
        obtain ⟨new, now, raised, -, -, drew, commits⟩ := Ingest.raise_eq_ok ran
        obtain ⟨record, adds, named⟩ := Alert.adds_of_raise raised
        obtain ⟨entries, stored, rest⟩ := commits.fresh fresh reach
        refine ⟨entries, congrArg Tables.outbox stored.store, ?_, rest⟩
        refine consistent.save follows adds stored (.inr ⟨rfl, ?_⟩)
          ⟨world.ids.used, consistent.reached, drew, congrArg Id.value named⟩
        intro taken
        obtain ⟨place, above, before, same⟩ := consistent.drawn record.id taken
        refine distinct place world.ids.used above before (Nat.lt_of_lt_of_le drew reach) ?_
        exact same.symm.trans (congrArg Id.value named)
      | load id =>
        obtain ⟨found, rfl⟩ := Ingest.load_eq_ok ran
        refine ⟨[], (List.append_nil _).symm, ?_, fresh⟩
        rw [List.append_nil]
        exact consistent.load found
      | acknowledge copy =>
        obtain ⟨record, faithful, rfl, row, there, same, begins⟩ :=
          consistent.copies copy (held copy rfl)
        obtain ⟨seen, now, unnamed, acknowledged, -, commits⟩ := Ingest.acknowledgeLoaded_eq_ok ran
        obtain ⟨next, adds, named, placed⟩ := Alert.adds_of_acknowledge faithful acknowledged
        exact consistent.advance fresh reach faithful adds named placed there same begins commits
      | resolve copy notes =>
        obtain ⟨record, faithful, rfl, row, there, same, begins⟩ :=
          consistent.copies copy (held copy rfl)
        obtain ⟨closed, now, unnamed, resolved, -, commits⟩ := Ingest.resolveLoaded_eq_ok ran
        obtain ⟨next, adds, named, placed⟩ := Alert.adds_of_resolve faithful resolved
        exact consistent.advance fresh reach faithful adds named placed there same begins commits

/-- A run from a store without alerts stays consistent, as far as the supply is fresh. -/
theorem consistent_of_steps {initial : World Tables} {state : State} {high : Nat}
    (bare : initial.store.alerts = [])
    (fresh : Fresh initial.store initial.ids.draw initial.ids.used high)
    (steps : AlertSteps ⟨initial, []⟩ state) (reach : state.world.ids.used ≤ high) :
    ∃ staged, state.world.store.outbox = initial.store.outbox ++ staged ∧
      Consistent initial.ids.used staged state ∧ initial.Follows state.world ∧
      Fresh state.world.store initial.ids.draw state.world.ids.used high := by
  induction steps with
  | refl =>
    refine ⟨[], (List.append_nil _).symm, ?_, .refl initial, fresh⟩
    constructor
    case reached => exact Nat.le_refl _
    case single => rw [bare]; exact .nil
    case known | copies => rintro _ ⟨⟩
    case faithful | version | told | drawn => rw [bare]; rintro _ ⟨⟩
  | tail earlier step ih =>
    have goesOn := step.follows
    obtain ⟨staged, outbox, consistent, follows, rest⟩ := ih (Nat.le_trans goesOn.used reach)
    rw [← follows.draw] at rest
    have distinct := fresh.distinct
    rw [← follows.draw] at distinct
    obtain ⟨entries, added, still, left⟩ := consistent.step step distinct rest reach
    rw [follows.draw] at left
    refine ⟨staged ++ entries, ?_, still, follows.trans goesOn, left⟩
    rw [added, outbox, List.append_assoc]

/-- However calls on alerts overlap, the entries staged for an alert are one that it was raised,
then at most one that it was acknowledged, then at most one that it was resolved. The version of
its row is their number, the row stands as they tell, and a part of a call that fails leaves what
the store holds as it is. -/
theorem each_event_once {initial : World Tables} {state : State}
    (bare : initial.store.alerts = []) (steps : AlertSteps ⟨initial, []⟩ state)
    (fresh : Fresh initial.store initial.ids.draw initial.ids.used state.world.ids.used) :
    ∃ staged, state.world.store.outbox = initial.store.outbox ++ staged ∧
      (∀ entry ∈ staged, entry.envelope.aggregateId ∈ alertIds state.world.store.alerts) ∧
      (alertIds state.world.store.alerts).Nodup ∧
      (∀ row ∈ state.world.store.alerts, ∃ raised acknowledged resolved,
        (entriesOf staged row.record.id).map (fun entry => Message.ofEnvelope entry.envelope) =
          (messages raised acknowledged resolved).map .ok ∧
        row.version = (entriesOf staged row.record.id).length ∧
        StandsAs row.record raised acknowledged resolved) ∧
      ∀ (part : Part) context error after,
        part.run context state.world = (.error error, after) →
          after.store.HoldsAs state.world.store := by
  obtain ⟨staged, outbox, consistent, -, -⟩ :=
    consistent_of_steps bare fresh steps (Nat.le_refl _)
  refine ⟨staged, outbox, consistent.known, consistent.single, ?_, ?_⟩
  · intro row there
    have told := consistent.told row there
    obtain ⟨raised, acknowledged, resolved, opened, stands⟩ :=
      standsAs_of_told (consistent.faithful row there) told
    refine ⟨raised, acknowledged, resolved, opened, ?_, stands⟩
    rw [consistent.version row there, told.length_eq]
  · intro part context error after failed
    have atomic := part.run_atomic context state.world
    rw [failed] at atomic
    exact atomic.2 error rfl

def atWork : OperationContext := ⟨⟨9⟩, some ⟨3⟩⟩

/-- The alert that a gate is open, as it is raised. -/
def openGate : NewAlert := ⟨⟨1⟩, .custom, .high, "Gate open", none, none⟩

/-- Its row, once raised. -/
def openGateRow : AlertRecord :=
  ⟨⟨1⟩, ⟨1⟩, .custom, .high, "Gate open", none, none, .pending, .epoch, none, none, none, none,
    none⟩

/-- Its row, once seen. -/
def seenGateRow : AlertRecord :=
  { openGateRow with
    status := .acknowledged, acknowledgedAt := some .epoch, acknowledgedBy := some ⟨3⟩ }

/-- The farm once the alert was raised. -/
def gateRaised : World Tables := ((Part.raise openGate).run atWork quietFarm).2

/-- The farm once one of two copies was acknowledged. -/
def gateSeen : World Tables :=
  ((Part.acknowledge (.restore openGateRow 1)).run atWork gateRaised).2

/-- The farm once the other copy was to be resolved, too late. -/
def gateMissed : World Tables :=
  ((Part.resolve (.restore openGateRow 1) none).run atWork gateSeen).2

/-- The farm once the alert was resolved from a new copy. -/
def gateClosed : State where
  world := ((Part.resolve (.restore seenGateRow 2) none).run atWork gateMissed).2
  copies := [.restore seenGateRow 2, .restore openGateRow 1, .restore openGateRow 1]

theorem steps_gateClosed : AlertSteps ⟨quietFarm, []⟩ gateClosed := by
  have raised : AlertStep ⟨quietFarm, []⟩ ⟨gateRaised, []⟩ :=
    @AlertStep.call quietFarm gateRaised [] atWork (.ok (.restore openGateRow 1)) (.raise openGate)
      (by rintro _ ⟨⟩) rfl
  have loaded (copies : List Alert) :
      AlertStep ⟨gateRaised, copies⟩ ⟨gateRaised, .restore openGateRow 1 :: copies⟩ :=
    @AlertStep.call gateRaised gateRaised copies atWork (.ok (.restore openGateRow 1)) (.load ⟨1⟩)
      (by rintro _ ⟨⟩) rfl
  have seen (copies : List Alert) : AlertStep ⟨gateRaised, .restore openGateRow 1 :: copies⟩
      ⟨gateSeen, .restore openGateRow 1 :: copies⟩ :=
    @AlertStep.call gateRaised gateSeen (.restore openGateRow 1 :: copies) atWork
      (.ok (.restore seenGateRow 2)) (.acknowledge (.restore openGateRow 1))
      (by rintro _ ⟨⟩; exact List.mem_cons_self) rfl
  have missed (copies : List Alert) : AlertStep ⟨gateSeen, .restore openGateRow 1 :: copies⟩
      ⟨gateMissed, .restore openGateRow 1 :: copies⟩ :=
    @AlertStep.call gateSeen gateMissed (.restore openGateRow 1 :: copies) atWork
      (.error (.store (.conflict ⟨1⟩ 1 2))) (.resolve (.restore openGateRow 1) none)
      (by rintro _ ⟨⟩; exact List.mem_cons_self) rfl
  have reloaded (copies : List Alert) :
      AlertStep ⟨gateMissed, copies⟩ ⟨gateMissed, .restore seenGateRow 2 :: copies⟩ :=
    @AlertStep.call gateMissed gateMissed copies atWork (.ok (.restore seenGateRow 2)) (.load ⟨1⟩)
      (by rintro _ ⟨⟩) rfl
  have closed : AlertStep ⟨gateMissed, gateClosed.copies⟩ gateClosed :=
    @AlertStep.call gateMissed gateClosed.world gateClosed.copies atWork
      ((Part.resolve (.restore seenGateRow 2) none).run atWork gateMissed).1
      (.resolve (.restore seenGateRow 2) none) (by rintro _ ⟨⟩; exact List.mem_cons_self) rfl
  have twice := ((Relation.ReflTransGen.single raised).tail (loaded _)).tail (loaded _)
  exact (((twice.tail (seen _)).tail (missed _)).tail (reloaded _)).tail closed

/-- One of two copies loses the race, and the alert was still acknowledged once and resolved
once. -/
theorem each_event_once_gateClosed :
    ∃ staged, gateClosed.world.store.outbox = quietFarm.store.outbox ++ staged ∧
      (∀ entry ∈ staged,
        entry.envelope.aggregateId ∈ alertIds gateClosed.world.store.alerts) ∧
      (alertIds gateClosed.world.store.alerts).Nodup ∧
      (∀ row ∈ gateClosed.world.store.alerts, ∃ raised acknowledged resolved,
        (entriesOf staged row.record.id).map (fun entry => Message.ofEnvelope entry.envelope) =
          (messages raised acknowledged resolved).map .ok ∧
        row.version = (entriesOf staged row.record.id).length ∧
        StandsAs row.record raised acknowledged resolved) ∧
      ∀ (part : Part) context error after,
        part.run context gateClosed.world = (.error error, after) →
          after.store.HoldsAs gateClosed.world.store := by
  have used : gateClosed.world.ids.used = 12 := rfl
  have fresh : Fresh quietFarm.store quietFarm.ids.draw quietFarm.ids.used
      gateClosed.world.ids.used := Ingest.fresh_quietFarm (by rw [used]; decide)
  exact each_event_once rfl steps_gateClosed fresh

end Fieldwatch.Alerts
