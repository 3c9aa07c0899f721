import Mathlib.Data.List.Nodup
import Fieldwatch.Proofs.Ingest.Calls

/-!
# What calls store

Where the identifiers that a call draws are new to the store, what it commits is all stored: the
rows of the aggregates it saved, and one entry for each of their events. What it leaves of the
supply is as fresh as before.
-/
namespace Fieldwatch.Ingest

/-- Whether the identifiers on a stretch of a supply are new to a store and differ from each
other. -/
structure Fresh (tables : Tables) (draw : Nat → BitVec 128) (low high : Nat) : Prop where
  distinct : ∀ i j, low ≤ i → i < j → j < high → draw i ≠ draw j
  readings : ∀ i, low ≤ i → i < high → ∀ row ∈ tables.readings, row.id.value ≠ draw i
  events : ∀ i, low ≤ i → i < high → ∀ id ∈ tables.eventIds, id.value ≠ draw i

namespace Fresh

variable {tables : Tables} {draw : Nat → BitVec 128} {low high : Nat}

/-- Readings with drawn identifiers are all added. -/
theorem addReadings (fresh : Fresh tables draw low high) {records : List ReadingRecord}
    (drawn : DrawnInOrder draw low high (records.map fun record => record.id.value)) :
    records.foldl Tables.addReading (tables.readings, 0) =
      (tables.readings ++ records, records.length) := by
  rw [Tables.foldl_addReading, Tables.firstOfKey_of_fresh]
  · refine List.Nodup.of_map Id.value ?_
    rw [List.map_map]
    exact drawn.nodup fresh.distinct
  · intro record member there
    obtain ⟨row, stored, same⟩ := List.mem_map.mp there
    obtain ⟨place, after, before, named⟩ := drawn.place_of_mem (List.mem_map_of_mem member)
    exact fresh.readings place after before row stored ((congrArg Id.value same).trans named)

/-- Entries of events with drawn identifiers are all added. -/
theorem addEntries (fresh : Fresh tables draw low high) {entries : List OutboxEntry}
    (drawn : DrawnInOrder draw low high
      (entries.map fun entry => entry.envelope.eventId.value)) :
    entries.foldl Tables.addEntry (tables.outbox, tables.eventIds, 0) =
      (tables.outbox ++ entries,
        tables.eventIds ++ entries.map (fun entry => entry.envelope.eventId),
        entries.length) := by
  rw [Tables.foldl_addEntry, Tables.firstOfKey_of_fresh]
  · refine List.Nodup.of_map Id.value ?_
    rw [List.map_map]
    exact drawn.nodup fresh.distinct
  · intro entry member there
    obtain ⟨place, after, before, named⟩ := drawn.place_of_mem (List.mem_map_of_mem member)
    exact fresh.events place after before _ there named

/-- What was drawn from the first part of a stretch leaves the rest of it fresh. -/
theorem rest (fresh : Fresh tables draw low high) {after : Tables} {middle : Nat}
    {records : List ReadingRecord} {ids : List EventId} (up : low ≤ middle)
    (readings : after.readings = tables.readings ++ records)
    (eventIds : after.eventIds = tables.eventIds ++ ids)
    (drawn : DrawnInOrder draw low middle (records.map fun record => record.id.value))
    (drawnIds : DrawnInOrder draw low middle (ids.map Id.value)) :
    Fresh after draw middle high where
  distinct i j from' before upTo := fresh.distinct i j (Nat.le_trans up from') before upTo
  readings i from' upTo row member same := by
    rw [readings] at member
    rcases List.mem_append.mp member with old | new
    · exact fresh.readings i (Nat.le_trans up from') upTo row old same
    · obtain ⟨place, after, before, named⟩ := drawn.place_of_mem (List.mem_map_of_mem new)
      exact fresh.distinct place i after (by omega) upTo (named.symm.trans same)
  events i from' upTo id member same := by
    rw [eventIds] at member
    rcases List.mem_append.mp member with old | new
    · exact fresh.events i (Nat.le_trans up from') upTo id old same
    · obtain ⟨place, after, before, named⟩ := drawnIds.place_of_mem (List.mem_map_of_mem new)
      exact fresh.distinct place i after (by omega) upTo (named.symm.trans same)

/-- A store that holds what it held leaves the rest of a stretch fresh. -/
theorem of_holdsAs (fresh : Fresh tables draw low high) {after : Tables} {middle : Nat}
    (up : low ≤ middle) (holds : after.HoldsAs tables) : Fresh after draw middle high :=
  fresh.rest up (holds.readings.trans (List.append_nil _).symm)
    (holds.eventIds.trans (List.append_nil _).symm) (.nil _ _ _) (.nil _ _ _)

theorem narrow (fresh : Fresh tables draw low high) {middle : Nat} (on : middle ≤ high) :
    Fresh tables draw low middle where
  distinct i j from' before upTo := fresh.distinct i j from' before (by omega)
  readings i from' upTo := fresh.readings i from' (by omega)
  events i from' upTo := fresh.events i from' (by omega)

end Fresh

/-- Whether a store is an earlier one with what was saved: the rows of the aggregates, and one fresh
entry for each of their events in the order in which they were recorded. -/
structure Stored (tables after : Tables) (correlationId : CorrelationId) (saved : List Saved)
    (entries : List OutboxEntry) : Prop where
  store : after = { tables with
    readings := tables.readings ++ saved.filterMap Saved.record?
    alerts := (saved.filterMap Saved.write?).foldl Tables.putAlert tables.alerts
    outbox := tables.outbox ++ entries
    eventIds := tables.eventIds ++ entries.map fun entry => entry.envelope.eventId
    commits := after.commits }
  told : List.Forall₂ (fun event entry => OutboxEntry.Tells entry correlationId event)
    (saved.flatMap Saved.events) entries

variable {context : OperationContext} {world left : World Tables} {saved : List Saved}

/-- What a call committed is stored, where its identifiers are fresh. -/
theorem Commits.stored (commits : Commits context saved world left)
    (fresh : Fresh world.store world.ids.draw world.ids.used left.ids.used) :
    ∃ entries, Stored world.store left.store context.correlationId saved entries ∧
      DrawnInOrder world.ids.draw world.ids.used left.ids.used
        (entries.map fun entry => entry.envelope.eventId.value) := by
  obtain ⟨changes, stages, committed⟩ := commits.committed
  obtain ⟨entries, outbox, told, drawn⟩ := stages.outbox
  have readings : changes.readings = saved.filterMap Saved.record? := stages.readings
  have alerts : changes.alerts = saved.filterMap Saved.write? := stages.alerts
  have outbox : changes.outbox = entries := outbox
  have drawnReadings := commits.drawn
  rw [readingIds, List.map_map] at drawnReadings
  refine ⟨entries, ⟨?_, told⟩, drawn⟩
  rcases committed with ⟨empty, same⟩ | ⟨receipt, committed⟩
  · have nothing : changes.size = 0 := by simpa [ChangeSet.isEmpty] using empty
    unfold ChangeSet.size at nothing
    have noReadings : changes.readings = [] := List.length_eq_zero_iff.mp (by omega)
    have noAlerts : changes.alerts = [] := List.length_eq_zero_iff.mp (by omega)
    have noEntries : changes.outbox = [] := List.length_eq_zero_iff.mp (by omega)
    rw [← readings, ← alerts, ← outbox, noReadings, noAlerts, noEntries, same]
    simp
  · obtain ⟨-, -, applied⟩ := Tables.commit_eq_ok committed
    unfold Tables.applied at applied
    rw [readings, alerts, outbox, fresh.addReadings drawnReadings, fresh.addEntries drawn,
      stages.sensors, stages.owners] at applied
    rw [← (Prod.mk.inj applied).1]
    rfl

/-- What a call committed leaves the rest of the supply fresh. -/
theorem Commits.fresh (commits : Commits context saved world left) {high : Nat}
    (fresh : Fresh world.store world.ids.draw world.ids.used high)
    (reach : left.ids.used ≤ high) :
    ∃ entries, Stored world.store left.store context.correlationId saved entries ∧
      Fresh left.store world.ids.draw left.ids.used high := by
  obtain ⟨entries, stored, drawn⟩ := commits.stored (fresh.narrow reach)
  have drawnReadings := commits.drawn
  rw [readingIds, List.map_map] at drawnReadings
  refine ⟨entries, stored, ?_⟩
  exact fresh.rest commits.follows.used (congrArg Tables.readings stored.store)
    (congrArg Tables.eventIds stored.store) drawnReadings (by rw [List.map_map]; exact drawn)

/-- A farm with one sensor in use and nothing stored. -/
def quietFarm : World Tables :=
  ⟨.still .epoch, ⟨fun count => BitVec.ofNat 128 (count + 1), 0⟩,
    { sensors := [.register ⟨1⟩ ⟨⟨2⟩, ⟨3⟩, ⟨4⟩, none, "North", "Mill"⟩ .active .epoch .epoch] }, {}⟩

/-- Its supply of identifiers does not repeat itself before it is used up. -/
theorem fresh_quietFarm {high : Nat} (below : high < 2 ^ 128) :
    Fresh quietFarm.store quietFarm.ids.draw quietFarm.ids.used high := by
  refine ⟨?_, by rintro i - - row ⟨⟩, by rintro i - - id ⟨⟩⟩
  rintro i j - before upTo same
  have same : (i + 1) % 2 ^ 128 = (j + 1) % 2 ^ 128 := congrArg BitVec.toNat same
  omega

end Fieldwatch.Ingest
