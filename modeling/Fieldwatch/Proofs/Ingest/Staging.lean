import Fieldwatch.Proofs.Frame
import Fieldwatch.Proofs.Id.Drawn
import Fieldwatch.Proofs.Ingest.Telling

/-!
# What change sets stage

Staging an aggregate adds its row to a change set, and one entry for each event pending on it in
the order in which they were recorded. Stagings one after the other add up, and draw the
identifiers of their events from stretches of the supply that follow each other.
-/
namespace Fieldwatch

inductive Saved
  | reading (reading : Reading)
  | alert (alert : Alert)

namespace Saved

/-- What happened to it since it was last saved, oldest first. -/
def events : Saved → List DomainEvent
  | reading saved => saved.pending.map .reading
  | alert saved =>
    match saved.state.sensorId with
    | some sensorId => saved.pending.map (.alert sensorId)
    | none => []

def record? : Saved → Option ReadingRecord
  | reading saved => saved.state.toRecord?
  | alert _ => none

/-- The save of an alert: its row, the version it was loaded at and the one it is saved at. -/
def write? : Saved → Option AlertWrite
  | reading _ => none
  | alert saved => saved.state.toRecord?.map fun record =>
      ⟨record, saved.version, saved.pendingVersion⟩

end Saved

/-- An alert that has a row was raised for the sensor of the row. -/
theorem AlertState.sensorId_of_toRecord? {state : AlertState} {record : AlertRecord}
    (found : state.toRecord? = some record) : state.sensorId = some record.sensorId := by
  simp only [toRecord?, Option.bind_eq_bind, Option.bind_eq_some_iff, Option.pure_def] at found
  obtain ⟨id, -, sensorId, raised, kind, -, severity, -, raisedAt, -, same⟩ := found
  cases same
  exact raised

/-- An alert that is saved tells of all that is pending on it. -/
theorem Saved.length_events_of_saveAlert {changes added : ChangeSet} {alert : Alert}
    (saved : changes.saveAlert alert = .ok added) :
    (Saved.events (.alert alert)).length = alert.pending.length := by
  unfold ChangeSet.saveAlert at saved
  split at saved
  · next record found =>
    simp [events, AlertState.sensorId_of_toRecord? found]
  · cases saved

namespace ChangeSet

/-- Whether a change set holds, beyond an earlier one, the rows of saved aggregates and one entry
for each of their events, whose identifiers were drawn from a stretch of a supply. -/
structure Stages (changes after : ChangeSet) (correlationId : CorrelationId) (saved : List Saved)
    (draw : Nat → BitVec 128) (low high : Nat) : Prop where
  readings : after.readings = changes.readings ++ saved.filterMap Saved.record?
  alerts : after.alerts = changes.alerts ++ saved.filterMap Saved.write?
  sensors : after.sensors = changes.sensors
  owners : after.owners = changes.owners
  outbox : ∃ entries, after.outbox = changes.outbox ++ entries ∧
    List.Forall₂ (fun event entry => OutboxEntry.Tells entry correlationId event)
      (saved.flatMap Saved.events) entries ∧
    DrawnInOrder draw low high (entries.map fun entry => entry.envelope.eventId.value)

namespace Stages

variable {changes middle after : ChangeSet} {correlationId : CorrelationId}
  {saved more : List Saved} {draw : Nat → BitVec 128} {low between high : Nat}

theorem refl (changes : ChangeSet) (correlationId : CorrelationId) (draw : Nat → BitVec 128)
    (low high : Nat) : changes.Stages changes correlationId [] draw low high where
  readings := (List.append_nil _).symm
  alerts := (List.append_nil _).symm
  sensors := rfl
  owners := rfl
  outbox := ⟨[], (List.append_nil _).symm, .nil, .nil draw low high⟩

theorem trans (first : changes.Stages middle correlationId saved draw low between)
    (second : middle.Stages after correlationId more draw between high) (up : low ≤ between)
    (on : between ≤ high) : changes.Stages after correlationId (saved ++ more) draw low high where
  readings := by
    rw [second.readings, first.readings, List.filterMap_append, List.append_assoc]
  alerts := by
    rw [second.alerts, first.alerts, List.filterMap_append, List.append_assoc]
  sensors := second.sensors.trans first.sensors
  owners := second.owners.trans first.owners
  outbox := by
    obtain ⟨entries, added, told, drawn⟩ := first.outbox
    obtain ⟨others, addedToo, toldToo, drawnToo⟩ := second.outbox
    refine ⟨entries ++ others, ?_, ?_, ?_⟩
    · rw [addedToo, added, List.append_assoc]
    · rw [List.flatMap_append]
      exact List.rel_append told toldToo
    · rw [List.map_append]
      exact drawn.append drawnToo up on

theorem widen {low' high' : Nat} (stages : changes.Stages after correlationId saved draw low high)
    (lower : low' ≤ low) (higher : high ≤ high') :
    changes.Stages after correlationId saved draw low' high' := by
  obtain ⟨entries, added, told, drawn⟩ := stages.outbox
  exact { stages with outbox := ⟨entries, added, told, drawn.widen lower higher⟩ }

end Stages

/-! ## Staging events -/

section Events

variable {σ ε ε' : Type} {context : OperationContext} {source : String}

theorem stageMessage_looks (changes : ChangeSet) (message : Message)
    (context : OperationContext) (source : String) :
    (changes.stageMessage message context source : Task σ _ _).Looks :=
  (Task.Looks.ofExcept _).bind fun _ => (Task.Looks.freshId _).bind fun _ =>
    Task.Looks.now.bind fun _ => .pure _

theorem stageReading_looks (changes : ChangeSet) (reading : Reading)
    (context : OperationContext) (source : String) :
    (changes.stageReading reading context source : Task σ _ _).Looks :=
  (Task.Looks.foldlM (fun changes _ => (Task.Looks.freshId _).bind fun _ =>
    changes.stageMessage_looks _ context source) changes _).bind fun _ => .pure _

theorem stageAlert_looks (changes : ChangeSet) (alert : Alert)
    (context : OperationContext) (source : String) :
    (changes.stageAlert alert context source : Task σ _ _).Looks := by
  unfold stageAlert
  split
  · exact .throw _
  · exact (Task.Looks.foldlM (fun changes _ => (Task.Looks.freshId _).bind fun _ =>
      changes.stageMessage_looks _ context source) changes _).bind fun _ => .pure _

/-- An event is staged under two fresh identifiers, its own drawn first. -/
theorem stageMessage_fresh (visible : Text.isBlankText source = false)
    (context : OperationContext) (changes : ChangeSet) (event : DomainEvent) (world : World σ) :
    ∃ entry after,
      (do let eventId ← Task.freshId .event
          changes.stageMessage (event.toMessage eventId) context source) world =
        (.ok (changes.enqueue entry), after) ∧
      after.store = world.store ∧ after.ids = { world.ids with used := world.ids.used + 2 } ∧
      entry.Tells context.correlationId event ∧
      entry.envelope.eventId.value = world.ids.draw world.ids.used := by
  have wrapped (message : Message) := message.wrap_eq_ok context.correlationId visible
  refine ⟨.new (world.ids.peek 1 .entry)
    ((event.toMessage (world.ids.peek 0 .event)).envelope context.correlationId source)
    world.now.time,
    { world with now := world.now.next, ids := { world.ids with used := world.ids.used + 2 } },
    ?_, rfl, rfl, OutboxEntry.tells_new .., ?_⟩
  · rw [Task.bind_of_ok (Task.freshId_apply .event world), stageMessage, wrapped]
    rfl
  · exact congrArg Id.value (event.eventId_toMessage _)

/-- Staging events in a row adds one entry for each, in their order. -/
theorem foldlM_stageMessage (visible : Text.isBlankText source = false)
    (context : OperationContext) (changes : ChangeSet) (events : List ε) {tell : ε → DomainEvent}
    (make : EventId → ε → Message)
    (made : ∀ eventId event, make eventId event = (tell event).toMessage eventId)
    (world : World σ) :
    ∃ entries after,
      events.foldlM (fun changes event => (do
          let eventId ← Task.freshId .event
          changes.stageMessage (make eventId event) context source :
            Task σ (EnvelopeError × ChangeSet) ChangeSet)) changes world =
        (.ok { changes with outbox := changes.outbox ++ entries }, after) ∧
      world.Follows after ∧ after.store = world.store ∧
      List.Forall₂ (fun event entry => OutboxEntry.Tells entry context.correlationId event)
        (events.map tell) entries ∧
      DrawnInOrder world.ids.draw world.ids.used after.ids.used
        (entries.map fun entry => entry.envelope.eventId.value) := by
  simp only [made]
  induction events generalizing changes world with
  | nil =>
    refine ⟨[], world, ?_, .refl world, rfl, .nil, .nil _ _ _⟩
    rw [List.append_nil]
    rfl
  | cons event rest ih =>
    obtain ⟨entry, middle, staged, keptFirst, drawnFirst, toldFirst, named⟩ :=
      stageMessage_fresh visible context changes (tell event) world
    obtain ⟨entries, after, ran, follows, kept, told, drawn⟩ := ih (changes.enqueue entry) middle
    obtain ⟨drawSame, used⟩ := follows
    rw [drawnFirst] at drawSame used drawn
    dsimp only at drawSame used drawn
    refine ⟨entry :: entries, after, ?_, ⟨drawSame, by omega⟩, kept.trans keptFirst,
      .cons toldFirst told, ?_⟩
    · rw [List.foldlM_cons, Task.bind_of_ok staged, ran, enqueue, List.append_assoc]
      rfl
    · rw [List.map_cons, named]
      have here : DrawnInOrder world.ids.draw world.ids.used (world.ids.used + 2)
          [world.ids.draw world.ids.used] := .singleton (Nat.le_refl _) (by omega)
      exact here.append drawn (by omega) used

/-- Staging the events of a reading adds one entry for each, and counts them. -/
theorem stageReading_eq (visible : Text.isBlankText source = false) (context : OperationContext)
    (changes : ChangeSet) (reading : Reading) (world : World σ) :
    ∃ entries after,
      changes.stageReading reading context source world =
        (.ok ({ changes with outbox := changes.outbox ++ entries }, reading.pending.length),
          after) ∧
      world.Follows after ∧ after.store = world.store ∧
      List.Forall₂ (fun event entry => OutboxEntry.Tells entry context.correlationId event)
        (Saved.events (.reading reading)) entries ∧
      DrawnInOrder world.ids.draw world.ids.used after.ids.used
        (entries.map fun entry => entry.envelope.eventId.value) := by
  obtain ⟨entries, after, ran, follows, kept, told, drawn⟩ :=
    foldlM_stageMessage visible context changes reading.pending ReadingEvent.toMessage
      (fun _ event => (rfl : _ = (DomainEvent.reading event).toMessage _)) world
  refine ⟨entries, after, ?_, follows, kept, told, drawn⟩
  rw [stageReading, Task.bind_of_ok ran]
  rfl

/-- Staging the events of an alert that was raised adds one entry for each, and counts them. -/
theorem stageAlert_eq (visible : Text.isBlankText source = false) (context : OperationContext)
    (changes : ChangeSet) {alert : Alert} {sensorId : SensorId}
    (raised : alert.state.sensorId = some sensorId) (world : World σ) :
    ∃ entries after,
      changes.stageAlert alert context source world =
        (.ok ({ changes with outbox := changes.outbox ++ entries }, alert.pending.length),
          after) ∧
      world.Follows after ∧ after.store = world.store ∧
      List.Forall₂ (fun event entry => OutboxEntry.Tells entry context.correlationId event)
        (Saved.events (.alert alert)) entries ∧
      DrawnInOrder world.ids.draw world.ids.used after.ids.used
        (entries.map fun entry => entry.envelope.eventId.value) := by
  obtain ⟨entries, after, ran, follows, kept, told, drawn⟩ :=
    foldlM_stageMessage visible context changes alert.pending
      (fun eventId event => event.toMessage eventId sensorId)
      (fun _ event => (rfl : _ = (DomainEvent.alert sensorId event).toMessage _)) world
  refine ⟨entries, after, ?_, follows, kept, ?_, drawn⟩
  · simp only [stageAlert, raised]
    rw [Task.bind_of_ok ran]
    rfl
  · simpa only [Saved.events, raised] using told

/-! ## Staging aggregates -/

theorem stages_reading (visible : Text.isBlankText source = false) (context : OperationContext)
    {changes added : ChangeSet} {reading : Reading}
    (staged : changes.addReading reading = .ok added) (world : World σ) :
    ∃ after left,
      added.stageReading reading context source world =
        (.ok (after, reading.pending.length), left) ∧
      world.Follows left ∧ left.store = world.store ∧
      changes.Stages after context.correlationId [.reading reading] world.ids.draw
        world.ids.used left.ids.used := by
  obtain ⟨entries, left, ran, follows, kept, told, drawn⟩ :=
    stageReading_eq visible context added reading world
  refine ⟨_, left, ran, follows, kept, ?_⟩
  unfold addReading at staged
  split at staged
  · next record found =>
    cases staged
    exact {
      readings := by simp [Saved.record?, found]
      alerts := by simp [Saved.write?]
      sensors := rfl
      owners := rfl
      outbox := ⟨entries, rfl, by simpa using told, drawn⟩ }
  · cases staged

theorem stages_alert (visible : Text.isBlankText source = false) (context : OperationContext)
    {changes added : ChangeSet} {alert : Alert} (staged : changes.saveAlert alert = .ok added)
    (world : World σ) :
    ∃ after left,
      added.stageAlert alert context source world = (.ok (after, alert.pending.length), left) ∧
      world.Follows left ∧ left.store = world.store ∧
      changes.Stages after context.correlationId [.alert alert] world.ids.draw
        world.ids.used left.ids.used := by
  unfold saveAlert at staged
  split at staged
  · next record found =>
    cases staged
    have raised : alert.state.sensorId = some record.sensorId :=
      AlertState.sensorId_of_toRecord? found
    obtain ⟨entries, left, ran, follows, kept, told, drawn⟩ :=
      stageAlert_eq visible context _ raised world
    exact ⟨_, left, ran, follows, kept, {
      readings := by simp [Saved.record?]
      alerts := by simp [Saved.write?, found]
      sensors := rfl
      owners := rfl
      outbox := ⟨entries, rfl, by simpa using told, drawn⟩ }⟩
  · cases staged

end Events
end ChangeSet
end Fieldwatch
