import Fieldwatch.Proofs.Alert.History
import Fieldwatch.Proofs.Ingest.Stored

/-!
# Parts of a change set

What a reading stages, or fails to, depends neither on what was staged before it nor, but for the
source that its events name, on the use case that stages it. So the change set of a batch is made
of the parts that its readings stage alone, one after the other.
-/
namespace Fieldwatch

theorem Task.ofExcept_ok {σ ε α : Type} (value : α) :
    (Task.ofExcept (.ok value) : Task σ ε α) = pure value := rfl

theorem Task.map_apply {σ ε α β : Type} (change : α → β) (task : Task σ ε α) (world : World σ) :
    (change <$> task) world = ((task world).1.map change, (task world).2) := by
  rw [← bind_pure_comp, Task.bind_apply]
  rcases task world with ⟨_ | _, _⟩ <;> rfl

theorem Task.mapError_map {σ ε ε' α β : Type} (task : Task σ ε α) (word : ε → ε') (change : α → β) :
    (change <$> task).mapError word = change <$> task.mapError word := by
  funext world
  rw [Task.mapError_apply, Task.map_apply, Task.map_apply, Task.mapError_apply]
  rcases task world with ⟨_ | _, _⟩ <;> rfl

theorem Task.mapError_bind {σ ε ε' α β : Type} (task : Task σ ε α) (next : α → Task σ ε β)
    (word : ε → ε') :
    (task >>= next).mapError word = task.mapError word >>= fun value =>
      (next value).mapError word := by
  funext world
  rw [Task.mapError_apply, Task.bind_apply, Task.bind_apply, Task.mapError_apply]
  rcases task world with ⟨_ | _, _⟩ <;> rfl

/-- Steps that commute with a change of their state and of their errors commute with it one after
the other. -/
theorem Task.foldlM_map {σ ε ε' α β γ : Type} {change : β → γ} {word : ε → ε'}
    {step : β → α → Task σ ε β} {changed : γ → α → Task σ ε' γ}
    (commutes : ∀ value item,
      changed (change value) item = change <$> (step value item).mapError word)
    (value : β) (items : List α) :
    items.foldlM changed (change value) = change <$> (items.foldlM step value).mapError word := by
  induction items generalizing value with
  | nil => rfl
  | cons item rest ih =>
    simp only [List.foldlM_cons, commutes, bind_map_left, map_bind, ih, Task.mapError_bind]

theorem Task.mapError_mapError {σ ε ε' ε'' α : Type} (task : Task σ ε α) (word : ε → ε')
    (other : ε' → ε'') :
    (task.mapError word).mapError other = task.mapError fun error => other (word error) := by
  funext world
  simp only [Task.mapError_apply]
  rcases task world with ⟨_ | _, _⟩ <;> rfl

theorem Task.ofExcept_mapError {σ ε ε' α : Type} (result : Except ε α) (word : ε → ε') :
    (Task.ofExcept (result.mapError word) : Task σ ε' α) =
      (Task.ofExcept result).mapError word := rfl

theorem Task.ofExcept_map {σ ε α β : Type} (result : Except ε α) (change : α → β) :
    (Task.ofExcept (result.map change) : Task σ ε β) = change <$> Task.ofExcept result := by
  funext world
  rw [Task.map_apply]
  rfl

/-! ## Change sets in parts -/

/-- An entry whose event is sent by another use case. -/
def OutboxEntry.sentBy (source : String) (entry : OutboxEntry) : OutboxEntry :=
  { entry with envelope := { entry.envelope with source } }

namespace ChangeSet

/-- A change set with another after it, whose events are sent by a use case. -/
def joined (changes : ChangeSet) (source : String) (part : ChangeSet) : ChangeSet where
  readings := changes.readings ++ part.readings
  alerts := changes.alerts ++ part.alerts
  sensors := changes.sensors ++ part.sensors
  owners := changes.owners ++ part.owners
  outbox := changes.outbox ++ part.outbox.map (OutboxEntry.sentBy source)

/-- Parts one after the other. -/
def ofParts (parts : List ChangeSet) : ChangeSet where
  readings := parts.flatMap ChangeSet.readings
  alerts := parts.flatMap ChangeSet.alerts
  sensors := parts.flatMap ChangeSet.sensors
  owners := parts.flatMap ChangeSet.owners
  outbox := parts.flatMap ChangeSet.outbox

variable {σ : Type} {changes part : ChangeSet} {source other : String}

theorem joined_nil : changes.joined source .empty = changes := by
  simp [joined, empty]

theorem joined_cons (parts : List ChangeSet) :
    (changes.joined source part).joined source (ofParts parts) =
      changes.joined source (ofParts (part :: parts)) := by
  simp [joined, ofParts]

theorem joined_enqueue (entry : OutboxEntry) :
    (changes.joined source part).enqueue (entry.sentBy source) =
      changes.joined source (part.enqueue entry) := by
  simp [joined, enqueue]

theorem joined_addReading (reading : Reading) :
    (changes.joined source part).addReading reading =
      (part.addReading reading).map (changes.joined source) := by
  unfold addReading
  split <;> simp [joined, Except.map]

theorem joined_saveAlert (alert : Alert) :
    (changes.joined source part).saveAlert alert =
      (part.saveAlert alert).map (changes.joined source) := by
  unfold saveAlert
  split <;> simp [joined, Except.map]

/-- A failure beside which a change set stands, with another before it. -/
def joinedBeside {ε : Type} (changes : ChangeSet) (source : String) :
    ε × ChangeSet → ε × ChangeSet :=
  Prod.map id (changes.joined source)

section Staging

variable (visible : Text.isBlankText source = false) (visibleToo : Text.isBlankText other = false)
include visible visibleToo

theorem stageMessage_joined (message : Message) (context : OperationContext) :
    ((changes.joined source part).stageMessage message context source : Task σ _ _) =
      changes.joined source <$> (part.stageMessage message context other).mapError
        (changes.joinedBeside source) := by
  have sent (id : EntryId) (now : Instant) :
      (OutboxEntry.new id (message.envelope context.correlationId source) now) =
        (OutboxEntry.new id (message.envelope context.correlationId other) now).sentBy source := rfl
  simp only [stageMessage, message.wrap_eq_ok _ visible, message.wrap_eq_ok _ visibleToo,
    Except.mapError, Task.ofExcept_ok, pure_bind, stageEnvelope, Task.mapError_bind, map_bind,
    sent, joined_enqueue]
  rfl

/-- Events are staged one after the other beside what was staged before. -/
theorem stageEvents_joined {ε : Type} (make : EventId → ε → Message) (events : List ε)
    (context : OperationContext) :
    events.foldlM (fun changes event => (do
        let eventId ← Task.freshId .event
        changes.stageMessage (make eventId event) context source : Task σ _ ChangeSet))
      (changes.joined source part) =
    changes.joined source <$> (events.foldlM (fun changes event => (do
        let eventId ← Task.freshId .event
        changes.stageMessage (make eventId event) context other : Task σ _ ChangeSet))
      part).mapError (changes.joinedBeside source) := by
  refine Task.foldlM_map (fun part event => ?_) part events
  simp only [stageMessage_joined visible visibleToo, Task.mapError_bind, map_bind]
  rfl

theorem stageReading_joined (reading : Reading) (context : OperationContext) :
    ((changes.joined source part).stageReading reading context source : Task σ _ _) =
      Prod.map (changes.joined source) id <$> (part.stageReading reading context other).mapError
        (changes.joinedBeside source) := by
  unfold stageReading
  rw [stageEvents_joined visible visibleToo, Task.mapError_bind, bind_map_left, map_bind]
  rfl

theorem stageAlert_joined (alert : Alert) (context : OperationContext) :
    ((changes.joined source part).stageAlert alert context source : Task σ _ _) =
      Prod.map (changes.joined source) id <$> (part.stageAlert alert context other).mapError
        (changes.joinedBeside source) := by
  unfold stageAlert
  cases alert.state.sensorId with
  | none => rfl
  | some sensorId =>
    dsimp only
    rw [stageEvents_joined visible visibleToo, Task.mapError_bind, bind_map_left, map_bind]
    rfl

end Staging
end ChangeSet

namespace Ingest

variable {σ : Type} {source other : String} (visible : Text.isBlankText source = false)
  (visibleToo : Text.isBlankText other = false)
include visible visibleToo

theorem stageNext_joined (changes : ChangeSet) (context : OperationContext)
    (staged : ChangeSet × Nat) (alert : Alert) :
    (stageNext context source (Prod.map (changes.joined source) id staged) alert : Task σ _ _) =
      Prod.map (changes.joined source) id <$> (stageNext context other staged alert).mapError
        (changes.joinedBeside source) := by
  obtain ⟨part, count⟩ := staged
  simp only [stageNext, Prod.map_apply, ChangeSet.joined_saveAlert, Task.ofExcept_mapError,
    Task.ofExcept_map, ChangeSet.stageAlert_joined visible visibleToo, Task.mapError_map,
    Task.mapError_bind, Task.mapError_mapError, bind_map_left, map_bind]
  rfl

theorem stageWith_joined (changes part : ChangeSet) (reading : Reading) (alerts : List Alert)
    (readingId : EntityId) (sensorId : SensorId) (context : OperationContext) :
    (stageWith context source (changes.joined source part) reading alerts readingId sensorId :
        Task σ _ _) =
      Prod.map (changes.joined source) id <$>
        (stageWith context other part reading alerts readingId sensorId).mapError
          (changes.joinedBeside source) := by
  have alerted (staged : ChangeSet × Nat) :
      (alerts.foldlM (stageNext context source) (Prod.map (changes.joined source) id staged) :
          Task σ _ _) =
        Prod.map (changes.joined source) id <$>
          (alerts.foldlM (stageNext context other) staged).mapError
            (changes.joinedBeside source) :=
    Task.foldlM_map (stageNext_joined visible visibleToo changes context) staged alerts
  simp only [stageWith, ChangeSet.joined_addReading, Task.ofExcept_mapError, Task.ofExcept_map,
    ChangeSet.stageReading_joined visible visibleToo, alerted, Task.mapError_map,
    Task.mapError_bind, Task.mapError_mapError, bind_map_left, map_bind, Prod.mk.eta]
  rfl

/-- A recorded reading is staged beside what was staged before as it is alone. -/
theorem stage_joined (rules : Option AlertRules) (changes part : ChangeSet) {reading : Reading}
    {record : ReadingRecord} (recorded : reading.state.toRecord? = some record)
    (context : OperationContext) :
    (stage rules (changes.joined source part) reading context source : Task σ _ _) =
      Prod.map (changes.joined source) id <$> (stage rules part reading context other).mapError
        (changes.joinedBeside source) := by
  rw [stage_eq rules _ recorded, stage_eq rules _ recorded]
  simp only [stageWith_joined visible visibleToo, Task.mapError_bind, Task.mapError_mapError,
    map_bind]
  rfl

end Ingest

/-! ## New rows -/

/-- Whether a change set holds nothing but new readings, new alerts and entries of new events, all
under identifiers that were drawn from a stretch of a supply. -/
structure ChangeSet.Drawn (changes : ChangeSet) (draw : Nat → BitVec 128) (low high : Nat) :
    Prop where
  readings : DrawnInOrder draw low high (changes.readings.map fun record => record.id.value)
  alerts : DrawnInOrder draw low high (changes.alerts.map fun write => write.record.id.value)
  expected : ∀ write ∈ changes.alerts, write.expected = 0
  sensors : changes.sensors = []
  owners : changes.owners = []
  events : DrawnInOrder draw low high
    (changes.outbox.map fun entry => entry.envelope.eventId.value)

namespace ChangeSet.Drawn

variable {changes part : ChangeSet} {parts : List ChangeSet} {draw : Nat → BitVec 128}
  {low middle high : Nat}

theorem nil (draw : Nat → BitVec 128) (low high : Nat) : (ofParts []).Drawn draw low high :=
  ⟨.nil _ _ _, .nil _ _ _, by rintro _ ⟨⟩, rfl, rfl, .nil _ _ _⟩

theorem cons (first : part.Drawn draw low middle) (others : (ofParts parts).Drawn draw middle high)
    (up : low ≤ middle) (on : middle ≤ high) : (ofParts (part :: parts)).Drawn draw low high where
  readings := by
    simpa [ofParts] using first.readings.append others.readings up on
  alerts := by
    simpa [ofParts] using first.alerts.append others.alerts up on
  expected write member := by
    rcases List.mem_append.mp member with here | later
    · exact first.expected write here
    · exact others.expected write later
  sensors := by
    have := others.sensors
    simp_all [ofParts, first.sensors]
  owners := by
    have := others.owners
    simp_all [ofParts, first.owners]
  events := by
    simpa [ofParts] using first.events.append others.events up on

theorem joined_empty (drawn : part.Drawn draw low high) (source : String) :
    (ChangeSet.empty.joined source part).Drawn draw low high where
  readings := drawn.readings
  alerts := drawn.alerts
  expected := drawn.expected
  sensors := drawn.sensors
  owners := drawn.owners
  events := by
    have same :
        ((ChangeSet.empty.joined source part).outbox.map fun entry =>
          entry.envelope.eventId.value) =
        part.outbox.map fun entry => entry.envelope.eventId.value := by
      simp [joined, ChangeSet.empty, OutboxEntry.sentBy]
    rw [same]
    exact drawn.events

theorem widen {low' high' : Nat} (drawn : changes.Drawn draw low high) (lower : low' ≤ low)
    (higher : high ≤ high') : changes.Drawn draw low' high' where
  readings := drawn.readings.widen lower higher
  alerts := drawn.alerts.widen lower higher
  expected := drawn.expected
  sensors := drawn.sensors
  owners := drawn.owners
  events := drawn.events.widen lower higher

end ChangeSet.Drawn

namespace Tables

variable {tables : Tables} {changes : ChangeSet}

/-- The tables with the new rows of a change set at their ends. -/
def grown (tables : Tables) (changes : ChangeSet) : Tables :=
  { tables with
    readings := tables.readings ++ changes.readings
    alerts := tables.alerts ++ changes.alerts.map fun write => ⟨write.record, write.next⟩
    outbox := tables.outbox ++ changes.outbox
    eventIds := tables.eventIds ++ changes.outbox.map fun entry => entry.envelope.eventId
    commits := tables.commits + 1 }

/-- Whether the identifiers on a stretch of a supply are new to a store, its alerts too, and differ
from each other. -/
structure Unseen (tables : Tables) (draw : Nat → BitVec 128) (low high : Nat) : Prop
    extends Ingest.Fresh tables draw low high where
  alerts : ∀ i, low ≤ i → i < high → ∀ row ∈ tables.alerts, row.record.id.value ≠ draw i

variable {draw : Nat → BitVec 128} {low high : Nat}

theorem Unseen.narrow (unseen : Unseen tables draw low high) {low' high' : Nat} (up : low ≤ low')
    (on : high' ≤ high) : Unseen tables draw low' high' where
  distinct i j from' before upTo := unseen.distinct i j (by omega) before (by omega)
  readings i from' upTo := unseen.readings i (by omega) (by omega)
  events i from' upTo := unseen.events i (by omega) (by omega)
  alerts i from' upTo := unseen.alerts i (by omega) (by omega)

/-- A commit of new rows under new identifiers is taken, and all of them are added. -/
theorem commit_of_drawn (unset : tables.failNextCommit = false)
    (unseen : Unseen tables draw low high) (drawn : changes.Drawn draw low high) :
    ∃ receipt, tables.commit changes = (.ok receipt, tables.grown changes) := by
  have other : ∀ write ∈ changes.alerts, ∀ row ∈ tables.alerts,
      row.record.id ≠ write.record.id := by
    intro write member row there same
    obtain ⟨place, after, before, named⟩ := drawn.alerts.place_of_mem (List.mem_map_of_mem member)
    exact unseen.alerts place after before row there ((congrArg Id.value same).trans named)
  -- A new alert is stored at no version, which is the version that its save expects.
  have agreed : tables.conflict? changes.alerts = none := by
    refine List.findSome?_eq_none_iff.mpr fun write member => ?_
    have absent : (tables.alerts.find? fun row => row.record.id = write.record.id) = none := by
      simpa using other write member
    have version : tables.alertVersion write.record.id = write.expected := by
      rw [alertVersion, absent, drawn.expected write member]
      rfl
    exact if_pos version
  have distinct : (changes.alerts.map fun write => write.record.id).Nodup := by
    refine List.Nodup.of_map Id.value ?_
    rw [List.map_map]
    exact drawn.alerts.nodup unseen.distinct
  have grown : (tables.applied changes).1 = tables.grown changes := by
    simp only [applied, unseen.addReadings drawn.readings, unseen.addEntries drawn.events,
      foldl_putAlert distinct other, drawn.sensors, drawn.owners]
    rfl
  refine ⟨(tables.applied changes).2, ?_⟩
  rw [commit, if_neg (by simp [unset]), agreed, ← grown]

end Tables
end Fieldwatch
