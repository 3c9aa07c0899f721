import Fieldwatch.Proofs.Ingest.Stored

/-!
# The outbox is exact

Over any run of calls, at any times, with commits set to fail anywhere, every call that fails
changes nothing and every call that answers adds exactly the entries that tell of what it saved. So
the readings that are stored and the entries that tell of readings correspond one to one.
-/
namespace Fieldwatch.Ingest

variable {context : OperationContext} {world left : World Tables} {saved : List Saved}

/-! ## Readings and their entries -/

/-- Whether an entry opens to the event of a stored reading. -/
def isOfReading (entry : OutboxEntry) : Bool :=
  match Message.ofEnvelope entry.envelope with
  | .ok (.sensorIngested _) => true
  | _ => false

/-- Whether an entry opens to the event of the reading of a row. -/
def IsOf (record : ReadingRecord) (entry : OutboxEntry) : Prop :=
  ∃ event, Message.ofEnvelope entry.envelope = .ok (.sensorIngested event) ∧
    event.sensorReadingId = record.id ∧ event.sensorId = record.sensorId ∧
    event.time = record.time ∧ event.occurredOn = record.recordedAt ∧
    (⟨event.temperature, event.humidity, event.soilMoisture, event.rainfall,
      event.batteryLevel⟩ : Metrics) = record.metrics

/-- The entries that tell of readings are those of their rows, in the same order. -/
theorem entries_of_readings {correlationId : CorrelationId} {events : List DomainEvent}
    {entries : List OutboxEntry}
    (told : List.Forall₂ (fun event entry => OutboxEntry.Tells entry correlationId event)
      events entries) :
    List.Forall₂ IsOf (events.filterMap DomainEvent.record?) (entries.filter isOfReading) := by
  induction told with
  | nil => exact .nil
  | @cons event entry events entries tells others ih =>
    obtain ⟨message, opened, carried, -⟩ := tells.carried
    rcases event with ⟨data⟩ | ⟨sensorId, event⟩
    · cases message with
      | sensorIngested event =>
        obtain ⟨named, placed, timed, occurred, measured⟩ := carried
        have kept : isOfReading entry = true := by simp [isOfReading, opened]
        rw [List.filter_cons_of_pos kept]
        exact .cons ⟨event, opened, named, placed, timed, occurred, measured⟩ ih
      | _ => exact carried.elim
    · have dropped : isOfReading entry = false := by
        cases message with
        | sensorIngested _ => rcases event with _ | _ | _ <;> exact carried.elim
        | _ => simp [isOfReading, opened]
      rw [List.filter_cons_of_neg (by simp [dropped])]
      exact ih

/-- An alert has no events of readings. -/
theorem filterMap_record?_alerts (alerts : List Alert) :
    ((alerts.map Saved.alert).flatMap Saved.events).filterMap DomainEvent.record? = [] := by
  rw [List.filterMap_eq_nil_iff]
  intro event member
  obtain ⟨item, among, told⟩ := List.mem_flatMap.mp member
  obtain ⟨alert, -, rfl⟩ := List.mem_map.mp among
  simp only [Saved.events] at told
  split at told
  · obtain ⟨_, -, rfl⟩ := List.mem_map.mp told
    rfl
  · cases told

/-- The row of an accepted reading is the one that its event tells of. -/
theorem Accepted.records {rules : Option AlertRules} {input : NewReading} {reading : Reading}
    {alerts : List Alert} (accepted : Accepted rules input reading alerts) :
    (Saved.reading reading :: alerts.map .alert).filterMap Saved.record? =
      ((Saved.reading reading :: alerts.map .alert).flatMap Saved.events).filterMap
        DomainEvent.record? := by
  obtain ⟨id, now, created⟩ := accepted.recorded
  obtain ⟨recorded, pending⟩ := record_of_create created
  have noRows : (alerts.map Saved.alert).filterMap Saved.record? = [] := by
    simp [List.filterMap_eq_nil_iff, Saved.record?]
  rw [List.flatMap_cons, List.filterMap_append, filterMap_record?_alerts]
  simp [Saved.record?, recorded, noRows, Saved.events, pending, DomainEvent.record?]

theorem Sorted.records {rules : Option AlertRules} {active : List SensorId} {index : Nat}
    {inputs : List NewReading} {groups : List (Reading × List Alert)}
    {failures : List BatchFailure} (sorted : Sorted rules active index inputs groups failures) :
    (savedOf groups).filterMap Saved.record? =
      ((savedOf groups).flatMap Saved.events).filterMap DomainEvent.record? := by
  induction sorted with
  | done => rfl
  | accepted accepted _ _ ih =>
    rw [savedOf_cons, List.filterMap_append, List.flatMap_append, List.filterMap_append,
      accepted.records, ih]
  | refused _ _ ih => exact ih

/-- The rows of readings that a call saves are those that its events tell of. -/
theorem Call.Saves.records {actor : Option OwnerId} {tables : Tables} {call : Call}
    {answer : Answer} (saves : call.Saves actor tables answer saved) :
    saved.filterMap Saved.record? =
      (saved.flatMap Saved.events).filterMap DomainEvent.record? := by
  have single (alert : Alert) : [Saved.alert alert].filterMap Saved.record? =
      ([Saved.alert alert].flatMap Saved.events).filterMap DomainEvent.record? :=
    (filterMap_record?_alerts [alert]).symm
  cases saves with
  | ingest accepted _ _ => exact accepted.records
  | ingestBatch sorted => exact sorted.records
  | raise _ _ => exact single _
  | acknowledge _ _ => exact single _
  | resolve _ _ => exact single _

/-! ## Runs -/

/-- A call as it is made: in a context, by a clock, and with the next commit set to fail or not. -/
structure Request where
  call : Call
  context : OperationContext
  clock : Clock
  failing : Bool

namespace Request

def meet (request : Request) (world : World Tables) : World Tables :=
  { world with
    now := request.clock
    store := { world.store with
      failNextCommit := world.store.failNextCommit || request.failing } }

def perform (request : Request) (world : World Tables) :
    Except IngestError Answer × World Tables :=
  request.call.run request.context (request.meet world)

/-- Whether a call left a store as it should: one that failed left what the store held, and one
that answered added what it saved and the entries that tell of it. -/
def Exact (request : Request) (tables : Tables) (result : Except IngestError Answer)
    (after : Tables) : Prop :=
  match result with
  | .error _ => after.HoldsAs tables
  | .ok answer => ∃ saved entries,
      request.call.Saves request.context.actor tables answer saved ∧
      Stored tables after request.context.correlationId saved entries

theorem follows (request : Request) (world : World Tables) :
    world.Follows (request.perform world).2 := by
  obtain ⟨draw, used⟩ := (request.call.run_atomic request.context (request.meet world)).1
  exact ⟨draw, used⟩

end Request

/-- The world that requests leave, made one after the other. -/
def runAll (requests : List Request) (world : World Tables) : World Tables :=
  requests.foldl (fun world request => (request.perform world).2) world

theorem runAll_follows (requests : List Request) (world : World Tables) :
    world.Follows (runAll requests world) := by
  induction requests generalizing world with
  | nil => exact .refl world
  | cons request rest ih => exact (request.follows world).trans (ih _)

/-- What one request leaves: a store as it should be, rows of readings and the entries that tell of
them, and a supply as fresh as before. -/
theorem perform_exact (request : Request) {world : World Tables} {high : Nat}
    (fresh : Fresh world.store world.ids.draw world.ids.used high)
    (reach : (request.perform world).2.ids.used ≤ high) :
    request.Exact (request.meet world).store (request.perform world).1
        (request.perform world).2.store ∧
      Fresh (request.perform world).2.store world.ids.draw
        (request.perform world).2.ids.used high ∧
      ∃ records entries,
        (request.perform world).2.store.readings = world.store.readings ++ records ∧
        (request.perform world).2.store.outbox = world.store.outbox ++ entries ∧
        List.Forall₂ IsOf records (entries.filter isOfReading) ∧
        DrawnInOrder world.ids.draw world.ids.used (request.perform world).2.ids.used
          (records.map fun record => record.id.value) := by
  have follows := request.follows world
  have atomic := request.call.run_atomic request.context (request.meet world)
  rcases ran : request.perform world with ⟨result, left⟩
  rw [ran] at follows reach
  change request.call.run request.context (request.meet world) = _ at ran
  rw [ran] at atomic
  have met : Fresh (request.meet world).store world.ids.draw world.ids.used high :=
    ⟨fresh.distinct, fresh.readings, fresh.events⟩
  cases result with
  | error error =>
    have holds : left.store.HoldsAs (request.meet world).store := atomic.2 error rfl
    exact ⟨holds, met.of_holdsAs follows.used holds, [], [],
      holds.readings.trans (List.append_nil _).symm, holds.outbox.trans (List.append_nil _).symm,
      .nil, .nil _ _ _⟩
  | ok answer =>
    obtain ⟨saved, saves, commits⟩ := Call.run_eq_ok ran
    obtain ⟨entries, stored, rest⟩ := commits.fresh met reach
    have readings : left.store.readings = world.store.readings ++ saved.filterMap Saved.record? :=
      congrArg Tables.readings stored.store
    have outbox : left.store.outbox = world.store.outbox ++ entries :=
      congrArg Tables.outbox stored.store
    have drawn := commits.drawn
    rw [readingIds, List.map_map] at drawn
    refine ⟨⟨saved, entries, saves, stored⟩, rest, _, entries, readings, outbox, ?_, drawn⟩
    rw [saves.records]
    exact entries_of_readings stored.told

/-- What a run leaves, where the rest of the supply is fresh as far as the run goes and beyond. -/
theorem runAll_exact (requests : List Request) {world : World Tables} {high : Nat}
    (fresh : Fresh world.store world.ids.draw world.ids.used high)
    (reach : (runAll requests world).ids.used ≤ high) :
    (∀ earlier request later, requests = earlier ++ request :: later →
      request.Exact (request.meet (runAll earlier world)).store
        (request.perform (runAll earlier world)).1
        (request.perform (runAll earlier world)).2.store) ∧
    ∃ records entries,
      (runAll requests world).store.readings = world.store.readings ++ records ∧
      (runAll requests world).store.outbox = world.store.outbox ++ entries ∧
      List.Forall₂ IsOf records (entries.filter isOfReading) ∧
      DrawnInOrder world.ids.draw world.ids.used (runAll requests world).ids.used
        (records.map fun record => record.id.value) := by
  induction requests generalizing world with
  | nil =>
    refine ⟨?_, [], [], (List.append_nil _).symm, (List.append_nil _).symm, .nil, .nil _ _ _⟩
    intro earlier request later none
    exact absurd none.symm (List.append_ne_nil_of_right_ne_nil _ (List.cons_ne_nil _ _))
  | cons request rest ih =>
    have follows := request.follows world
    have goesOn := runAll_follows rest (request.perform world).2
    obtain ⟨exact, freshNext, records, entries, readings, outbox, told, drawn⟩ :=
      perform_exact request fresh (Nat.le_trans goesOn.used reach)
    rw [← follows.draw] at freshNext
    obtain ⟨exactLater, others, more, readingsToo, outboxToo, toldToo, drawnToo⟩ :=
      ih freshNext reach
    rw [follows.draw] at drawnToo
    refine ⟨?_, records ++ others, entries ++ more, ?_, ?_, ?_, ?_⟩
    · intro earlier next later split
      cases earlier with
      | nil =>
        cases split
        exact exact
      | cons head earlier =>
        cases split
        exact exactLater earlier next later rfl
    · rw [runAll, List.foldl_cons, ← List.append_assoc, ← readings]
      exact readingsToo
    · rw [runAll, List.foldl_cons, ← List.append_assoc, ← outbox]
      exact outboxToo
    · rw [List.filter_append]
      exact List.rel_append told toldToo
    · rw [List.map_append]
      exact drawn.append drawnToo follows.used goesOn.used

/-- The outbox is exact over every run: each call leaves the store that it met as it should, and the
readings stored and the entries that tell of readings correspond one to one, in their order. -/
theorem outbox_exact (requests : List Request) (initial : World Tables)
    (fresh : Fresh initial.store initial.ids.draw initial.ids.used
      (runAll requests initial).ids.used) :
    (∀ earlier request later, requests = earlier ++ request :: later →
      request.Exact (request.meet (runAll earlier initial)).store
        (request.perform (runAll earlier initial)).1
        (request.perform (runAll earlier initial)).2.store) ∧
    ∃ records entries,
      (runAll requests initial).store.readings = initial.store.readings ++ records ∧
      (runAll requests initial).store.outbox = initial.store.outbox ++ entries ∧
      List.Forall₂ IsOf records (entries.filter isOfReading) ∧
      (records.map ReadingRecord.id).Nodup ∧
      ∀ record ∈ records, ∀ row ∈ initial.store.readings, row.id ≠ record.id := by
  obtain ⟨exact, records, entries, readings, outbox, told, drawn⟩ :=
    runAll_exact requests fresh (Nat.le_refl _)
  refine ⟨exact, records, entries, readings, outbox, told, ?_, ?_⟩
  · refine List.Nodup.of_map Id.value ?_
    rw [List.map_map]
    exact drawn.nodup fresh.distinct
  · intro record member row there same
    obtain ⟨place, after, before, named⟩ := drawn.place_of_mem (List.mem_map_of_mem member)
    exact fresh.readings place after before row there ((congrArg Id.value same).trans named)

/-- A freezing air temperature at the sensor of the quiet farm. -/
def frost : NewReading := ⟨⟨1⟩, .epoch, { Metrics.none with temperature := some .zero }⟩

/-- Rules that ask for an alert below one degree. -/
def frostRules : AlertRules := { AlertRules.standard with lowTemperature := ⟨0x3ff0000000000000⟩ }

/-- A reading whose commit fails, a batch with a reading of a sensor that is not known, and the
acknowledgement of the alert that the batch raised. -/
def frostyDay : List Request :=
  [⟨.ingest (some frostRules) frost, ⟨⟨9⟩, none⟩, .still .epoch, true⟩,
    ⟨.ingestBatch (some frostRules) [frost, { frost with sensorId := ⟨8⟩ }], ⟨⟨9⟩, none⟩,
      .still .epoch, false⟩,
    ⟨.acknowledge ⟨8⟩, ⟨⟨9⟩, some ⟨3⟩⟩, .still .epoch, false⟩]

/-- That day stores one reading and stages three entries, of the reading and of its alert. -/
theorem outbox_exact_frostyDay :
    (runAll frostyDay quietFarm).store.readings.length = 1 ∧
    (runAll frostyDay quietFarm).store.outbox.length = 3 ∧
    Fresh quietFarm.store quietFarm.ids.draw quietFarm.ids.used
      (runAll frostyDay quietFarm).ids.used ∧
    (∀ earlier request later, frostyDay = earlier ++ request :: later →
      request.Exact (request.meet (runAll earlier quietFarm)).store
        (request.perform (runAll earlier quietFarm)).1
        (request.perform (runAll earlier quietFarm)).2.store) ∧
    ∃ records entries,
      (runAll frostyDay quietFarm).store.readings = quietFarm.store.readings ++ records ∧
      (runAll frostyDay quietFarm).store.outbox = quietFarm.store.outbox ++ entries ∧
      List.Forall₂ IsOf records (entries.filter isOfReading) ∧
      (records.map ReadingRecord.id).Nodup ∧
      ∀ record ∈ records, ∀ row ∈ quietFarm.store.readings, row.id ≠ record.id := by
  have used : (runAll frostyDay quietFarm).ids.used = 16 := by decide +kernel
  have fresh : Fresh quietFarm.store quietFarm.ids.draw quietFarm.ids.used
      (runAll frostyDay quietFarm).ids.used := fresh_quietFarm (by rw [used]; decide)
  exact ⟨by decide +kernel, by decide +kernel, fresh, outbox_exact frostyDay quietFarm fresh⟩

end Fieldwatch.Ingest
