import Fieldwatch.Alert.Basic
import Fieldwatch.Outbox.Entry
import Fieldwatch.Owner.Snapshot
import Fieldwatch.Proofs.Event.Envelope
import Fieldwatch.Reading.Basic
import Fieldwatch.Sensor.Snapshot

/-!
# Stored and sent forms

What is stored or sent as JSON is read back as it was. A choice is written as its name, an event as
its type beside its data, and the metrics of a reading among its own fields; a field without a value
is written as null. Numbers stand in these forms as they are, and it is not looked at here how they
are written as text, which JSON can do for finite ones only.
-/
namespace Fieldwatch

namespace Json

variable {α : Type}

/-! ## Choices and tags -/

/-- A choice is found under its name, when no other has that name. -/
theorem choose_of_mem {choices : List (String × α)} {name : String} {value : α}
    (distinct : (choices.map Prod.fst).Nodup) (listed : (name, value) ∈ choices) :
    choose choices name = .ok value := by
  rw [choose, find?_of_mem distinct listed]

/-- Values that are written as their names are read back, when their names differ. -/
theorem LawfulWire.of_named [Wire α] {named : List (String × α)} (name : α → String)
    (encoded : ∀ value : α, encode value = .str (name value))
    (decodes : Wire.decode (α := α) = decodeChoice named)
    (listed : ∀ value : α, (name value, value) ∈ named)
    (distinct : (named.map Prod.fst).Nodup) : LawfulWire α where
  decode_encode place value := by
    rw [decodes, encoded]
    exact choose_of_mem distinct (listed value)

/-- A value beside its tag is read as the tag says. -/
theorem decodeTagged_tagged {name tag : String} {choices : List (String × Decoder α)}
    {decoder : Decoder α} (distinct : (choices.map Prod.fst).Nodup)
    (listed : (tag, decoder) ∈ choices) (place : Place) (data : Json) :
    decodeTagged name choices place (tagged tag data) = decoder .keptAside data := by
  have held (key : String) :
      lookup key (inKeyOrder [("data", data), ("type", .str tag)]) =
        lookup key [("type", .str tag), ("data", data)] := lookup_inKeyOrder key _
  have chosen : decodeChoice choices place (.str tag) = .ok decoder :=
    choose_of_mem distinct listed
  simp only [tagged, record, decodeTagged, held]
  simp [lookup, chosen, bind, Except.bind]

end Json

open Json

instance : LawfulWire AlertKind :=
  .of_named AlertKind.name (fun _ => rfl) rfl (by intro kind; cases kind <;> decide) (by decide)

instance : LawfulWire Severity :=
  .of_named Severity.name (fun _ => rfl) rfl (by intro grade; cases grade <;> decide) (by decide)

instance : LawfulWire AlertStatus :=
  .of_named AlertStatus.name (fun _ => rfl) rfl (by intro status; cases status <;> decide)
    (by decide)

instance : LawfulWire SensorStatus :=
  .of_named SensorStatus.name (fun _ => rfl) rfl (by intro status; cases status <;> decide)
    (by decide)

instance : LawfulWire OutboxStatus :=
  .of_named OutboxStatus.name (fun _ => rfl) rfl (by intro status; cases status <;> decide)
    (by decide)

instance : NeverNull AlertKind := ⟨by rintro _ ⟨⟩⟩
instance : NeverNull Severity := ⟨by rintro _ ⟨⟩⟩
instance : NeverNull AlertStatus := ⟨by rintro _ ⟨⟩⟩
instance : NeverNull SensorStatus := ⟨by rintro _ ⟨⟩⟩
instance : NeverNull OutboxStatus := ⟨by rintro _ ⟨⟩⟩

/-! ## Snapshots and entries -/

instance : LawfulWire UInt32 where
  decode_encode place value := by
    have bound := value.toNat_lt
    simp [encode, Wire.decode, intBetween, Except.map,
      show (value.toNat : Int) ≤ 4294967295 by omega]

instance : NeverNull UInt32 := ⟨by rintro _ ⟨⟩⟩
instance : NeverNull Envelope := ⟨by rintro _ ⟨⟩⟩

instance : LawfulRecord OutboxEntry where
  readsBack _ := .of_reads rfl rfl fun _ _ keeps =>
    (keeps.required rfl).map OutboxEntry.mk |>.seq (keeps.required rfl)
      |>.seq (keeps.required rfl) |>.seq (keeps.required rfl) |>.seq (keeps.optional rfl)
      |>.seq (keeps.required rfl) |>.seq (keeps.optional rfl)

instance : LawfulRecord SensorSnapshot where
  readsBack _ := .of_reads rfl rfl fun _ _ keeps =>
    (keeps.required rfl).map SensorSnapshot.mk |>.seq (keeps.required rfl)
      |>.seq (keeps.required rfl) |>.seq (keeps.required rfl) |>.seq (keeps.optional rfl)
      |>.seq (keeps.required rfl) |>.seq (keeps.required rfl) |>.seq (keeps.required rfl)
      |>.seq (keeps.optional rfl) |>.seq (keeps.optional rfl) |>.seq (keeps.required rfl)
      |>.seq (keeps.required rfl) |>.seq (keeps.optional rfl)

instance : LawfulRecord OwnerSnapshot where
  readsBack _ := .of_reads rfl rfl fun _ _ keeps =>
    (keeps.required rfl).map OwnerSnapshot.mk |>.seq (keeps.required rfl)
      |>.seq (keeps.required rfl) |>.seq (keeps.optional rfl) |>.seq (keeps.required rfl)
      |>.seq (keeps.required rfl) |>.seq (keeps.optional rfl) |>.seq (keeps.required rfl)

/-! ## Readings -/

/-- Metrics are read from whatever keeps their values, among other fields or alone. -/
theorem Metrics.reads {metrics : Metrics} {fields kept : List (String × Json)}
    (keeps : Keeps (inKeyOrder fields) kept)
    (written : ∀ entry ∈ metrics.entries, lookup entry.1 fields.reverse = some entry.2)
    (place : Place) : Metrics.shape.Reads place (lookup · kept) metrics := by
  simp only [Metrics.entries, List.mem_cons, List.not_mem_nil, or_false, forall_eq_or_imp,
    forall_eq] at written
  obtain ⟨temperature, humidity, soilMoisture, rainfall, batteryLevel⟩ := written
  exact (keeps.optional temperature).map Metrics.mk |>.seq (keeps.optional humidity)
    |>.seq (keeps.optional soilMoisture) |>.seq (keeps.optional rainfall)
    |>.seq (keeps.optional batteryLevel)

instance : LawfulRecord Metrics where
  readsBack metrics := .of_reads rfl rfl fun place _ keeps =>
    metrics.reads keeps (by simp [Metrics.entries, lookup]) place

instance : NeverNull Metrics := ⟨by rintro _ ⟨⟩⟩

instance : LawfulRecord NewReading where
  readsBack reading := .of_reads_with rfl rfl fun _ _ keeps =>
    ⟨NewReading.mk reading.sensorId reading.time, reading.metrics, rfl,
      (keeps.required rfl).map NewReading.mk |>.seq (keeps.required rfl),
      reading.metrics.reads keeps (by simp [Metrics.entries, lookup]) _⟩

instance : LawfulRecord ReadingRecord where
  readsBack reading := .of_reads_with rfl rfl fun _ _ keeps =>
    ⟨fun metrics => ⟨reading.id, reading.sensorId, reading.time, metrics, reading.recordedAt⟩,
      reading.metrics, rfl,
      (keeps.required rfl).map (fun id sensorId time recordedAt metrics =>
          (⟨id, sensorId, time, metrics, recordedAt⟩ : ReadingRecord))
        |>.seq (keeps.required rfl) |>.seq (keeps.required rfl) |>.seq (keeps.required rfl),
      reading.metrics.reads keeps (by simp [Metrics.entries, lookup]) _⟩

instance : LawfulRecord ReadingRecorded where
  readsBack _ := .of_reads rfl rfl fun _ _ keeps =>
    (keeps.required rfl).map ReadingRecorded.mk |>.seq (keeps.required rfl)
      |>.seq (keeps.required rfl) |>.seq (keeps.required rfl) |>.seq (keeps.required rfl)

instance : LawfulWire ReadingEvent where
  decode_encode place event := by
    cases event with
    | recorded data =>
      refine (decodeTagged_tagged (by decide) List.mem_cons_self place _).trans ?_
      rw [decode_encode]
      rfl

/-! ## Alerts -/

instance : LawfulRecord NewAlert where
  readsBack _ := .of_reads rfl rfl fun _ _ keeps =>
    (keeps.required rfl).map NewAlert.mk |>.seq (keeps.required rfl)
      |>.seq (keeps.required rfl) |>.seq (keeps.required rfl) |>.seq (keeps.optional rfl)
      |>.seq (keeps.optional rfl)

instance : LawfulRecord AlertRecord where
  readsBack _ := .of_reads rfl rfl fun _ _ keeps =>
    (keeps.required rfl).map AlertRecord.mk |>.seq (keeps.required rfl)
      |>.seq (keeps.required rfl) |>.seq (keeps.required rfl) |>.seq (keeps.required rfl)
      |>.seq (keeps.optional rfl) |>.seq (keeps.optional rfl) |>.seq (keeps.required rfl)
      |>.seq (keeps.required rfl) |>.seq (keeps.optional rfl) |>.seq (keeps.optional rfl)
      |>.seq (keeps.optional rfl) |>.seq (keeps.optional rfl) |>.seq (keeps.optional rfl)

instance : LawfulRecord AlertRaised where
  readsBack _ := .of_reads rfl rfl fun _ _ keeps =>
    (keeps.required rfl).map AlertRaised.mk |>.seq (keeps.required rfl)
      |>.seq (keeps.required rfl) |>.seq (keeps.required rfl) |>.seq (keeps.required rfl)
      |>.seq (keeps.optional rfl) |>.seq (keeps.optional rfl) |>.seq (keeps.required rfl)

instance : LawfulRecord AlertAcknowledged where
  readsBack _ := .of_reads rfl rfl fun _ _ keeps =>
    (keeps.required rfl).map AlertAcknowledged.mk |>.seq (keeps.optional rfl)
      |>.seq (keeps.required rfl)

instance : LawfulRecord AlertResolved where
  readsBack _ := .of_reads rfl rfl fun _ _ keeps =>
    (keeps.required rfl).map AlertResolved.mk |>.seq (keeps.optional rfl)
      |>.seq (keeps.optional rfl) |>.seq (keeps.required rfl)

instance : LawfulWire AlertEvent where
  decode_encode place event := by
    cases event with
    | raised data =>
      refine (decodeTagged_tagged (by decide) List.mem_cons_self place _).trans ?_
      rw [decode_encode]
      rfl
    | acknowledged data =>
      refine (decodeTagged_tagged (by decide) (List.mem_cons_of_mem _ List.mem_cons_self)
        place _).trans ?_
      rw [decode_encode]
      rfl
    | resolved data =>
      refine (decodeTagged_tagged (by decide)
        (List.mem_cons_of_mem _ (List.mem_cons_of_mem _ List.mem_cons_self)) place _).trans ?_
      rw [decode_encode]
      rfl

/-! ## All of them -/

/-- Whether every value of a type is read back from its JSON form. -/
def Json.ReadBack (α : Type) [Wire α] : Prop :=
  ∀ value : α, Json.decode α (encode value) = .ok value

/-- Envelopes with any payload, entries of the outbox, rows, snapshots, new readings and alerts, and
what happened to them: each is read back from its JSON form. -/
theorem Json.forms_read_back :
    ReadBack Envelope ∧ ReadBack OutboxEntry ∧ ReadBack ReadingRecord ∧ ReadBack AlertRecord ∧
      ReadBack SensorSnapshot ∧ ReadBack OwnerSnapshot ∧ ReadBack NewReading ∧
      ReadBack NewAlert ∧ ReadBack ReadingEvent ∧ ReadBack AlertEvent := by
  have lawful (α : Type) [Wire α] [LawfulWire α] : ReadBack α := decode_encode .direct
  exact ⟨lawful _, lawful _, lawful _, lawful _, lawful _, lawful _, lawful _, lawful _, lawful _,
    lawful _⟩

end Fieldwatch
