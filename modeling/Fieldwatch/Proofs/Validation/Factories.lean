import Fieldwatch.Alert.Command
import Fieldwatch.Reading.Basic
import Fieldwatch.Proofs.Validation.Reports

/-!
# New readings and alerts

What a new reading and a new alert are held to, check by check. Each is made exactly if all of its
checks hold, under an identifier that the supply has not given out before; it has then been stored
at no version yet, and has one event pending. If it is refused, the refusal is the report of the
checks.
-/
namespace Fieldwatch

/-- Whether an identifier is none of those that a supply has given out, if the supply has not
repeated itself. -/
def IdSource.Unused {kind : IdKind} (source : IdSource) (id : Id kind) : Prop :=
  (∀ i j, i < j → j ≤ source.used → source.draw i ≠ source.draw j) →
    ∀ place < source.used, id.value ≠ source.draw place

theorem IdSource.unused_fresh (source : IdSource) (kind : IdKind) :
    source.Unused (source.fresh kind).1 :=
  fun distinct place before same => distinct place source.used before le_rfl same.symm

/-! ## Readings -/

namespace Metrics

/-- A reading has some value. -/
def presence (metrics : Metrics) : Check :=
  ⟨∃ x, some x ∈ metrics.toList, ⟨"metrics", "at least one metric is required"⟩⟩

/-- The values of a reading are within the ranges of their metrics. -/
def ranges (metrics : Metrics) : List Check :=
  [.range "temperature" metrics.temperature (-50) 70,
    .range "humidity" metrics.humidity 0 100,
    .range "soil_moisture" metrics.soilMoisture 0 100,
    .range "rainfall" metrics.rainfall 0 1000,
    .range "battery_level" metrics.batteryLevel 0 100]

theorem isEmpty_iff {metrics : Metrics} :
    metrics.isEmpty = true ↔ ¬ metrics.presence.holds := by
  simp only [isEmpty, List.all_eq_true, Option.isNone_iff_eq_none, presence, not_exists]
  constructor
  · intro absent x member
    cases absent _ member
  · intro absent value member
    cases value with
    | none => rfl
    | some x => exact absurd member (absent x)

theorem eq_none_of_isEmpty {metrics : Metrics} (empty : metrics.isEmpty = true) :
    metrics = .none := by
  rcases metrics with ⟨_ | _, _ | _, _ | _, _ | _, _ | _⟩ <;> first | rfl | cases empty

/-- The ranges are not looked at when there is no value, and hold then. -/
theorem reports_check (metrics : Metrics) {checks : List Check} {faults : Faults}
    (reports : Reports checks faults.toList) :
    Reports (checks ++ [metrics.presence] ++ metrics.ranges) (metrics.check faults).toList := by
  rw [Metrics.check]
  split_ifs with empty
  · have absent := reports.concat_of_fails (isEmpty_iff.mp empty)
    refine absent.append_of_holds ?_
    rw [eq_none_of_isEmpty empty]
    simp [ranges, Metrics.none, Check.range]
  · have present := reports.concat_of_holds (not_not.mp (mt isEmpty_iff.mpr empty))
    have temperature := Faults.reports_checkRange present "temperature" metrics.temperature (-50) 70
      (by decide) (by decide)
    have humidity := Faults.reports_checkRange temperature "humidity" metrics.humidity 0 100
      (by decide) (by decide)
    have soilMoisture := Faults.reports_checkRange humidity "soil_moisture" metrics.soilMoisture
      0 100 (by decide) (by decide)
    have rainfall := Faults.reports_checkRange soilMoisture "rainfall" metrics.rainfall 0 1000
      (by decide) (by decide)
    have batteryLevel := Faults.reports_checkRange rainfall "battery_level" metrics.batteryLevel
      0 100 (by decide) (by decide)
    simpa [ranges] using batteryLevel

end Metrics

/-- What a reading is held to, given what it is for it to be in time. -/
def NewReading.checks (input : NewReading) (inTime : Prop) : List Check :=
  [⟨input.sensorId ≠ .nil, ⟨"sensor_id", "must not be empty"⟩⟩,
    ⟨inTime, ⟨"time", "must not be more than 5 minutes in the future"⟩⟩,
    input.metrics.presence] ++ input.metrics.ranges

/-- Whether a reading was made from an input: it has one event, which tells of the input, and the
record that comes of it. -/
structure Reading.MadeFrom (input : NewReading) (id : EntityId) (now : Instant)
    (reading : Reading) : Prop where
  version : reading.version = 0
  pending : reading.pending = [.recorded ⟨id, input.sensorId, input.time, input.metrics, now⟩]
  record : reading.state.toRecord? = some ⟨id, input.sensorId, input.time, input.metrics, now⟩

theorem Id.isNil_iff {kind : IdKind} {id : Id kind} : id.isNil = true ↔ ¬ id ≠ .nil := by
  rcases id with ⟨value⟩
  simp [isNil, nil]

namespace Reading

variable {input : NewReading} {now : Instant} {inTime : Prop}

theorem isTooLate_iff {time latest : Instant}
    (inRange : now.add? NewReading.futureSkew = some latest) :
    isTooLate time now = true ↔ ¬ time ≤ latest := by
  simp only [isTooLate, inRange, decide_eq_true_eq]
  exact Int.not_le.symm

theorem reports_faults (late : isTooLate input.time now = true ↔ ¬ inTime) :
    Reports (input.checks inTime) (faults input now).toList := by
  have nothing : Reports [] Faults.none.toList := .nil
  have named := Faults.reports_check
    ⟨input.sensorId ≠ .nil, ⟨"sensor_id", "must not be empty"⟩⟩ nothing Id.isNil_iff
  have timed := Faults.reports_check
    ⟨inTime, ⟨"time", "must not be more than 5 minutes in the future"⟩⟩ named late
  exact input.metrics.reports_check timed

theorem judges_create (id : EntityId) (input : NewReading)
    (late : isTooLate input.time now = true ↔ ¬ inTime) :
    Judges (input.checks inTime) (create id input now) (MadeFrom input id now) :=
  Faults.judges_accept (reports_faults late) ⟨rfl, rfl, rfl⟩

/-- The values of a reading without a fault are numbers within their ranges, and its sensor is
named. -/
theorem sound_of_isEmpty (sound : (faults input now).isEmpty = true) :
    input.sensorId ≠ .nil ∧ ∀ check ∈ input.metrics.ranges, check.holds := by
  have reports : Reports (input.checks (¬ isTooLate input.time now = true))
      (faults input now).toList := reports_faults not_not.symm
  have holds := reports.eq_nil_iff.mp (List.isEmpty_iff.mp sound)
  constructor
  · exact holds ⟨input.sensorId ≠ .nil, ⟨"sensor_id", "must not be empty"⟩⟩
      (by simp [NewReading.checks])
  · intro check among
    exact holds check (by simp [NewReading.checks, among])

/-- Without any value, nothing is reported of the ranges. -/
theorem field_of_isEmpty (empty : input.metrics.isEmpty = true) {reported : List Fault}
    (reports : Reports (input.checks inTime) reported) {fault : Fault} (member : fault ∈ reported) :
    fault.field ∈ ["sensor_id", "time", "metrics"] := by
  obtain ⟨check, among, fails, rfl⟩ := reports.of_mem member
  have values := Metrics.eq_none_of_isEmpty empty
  simp only [NewReading.checks, Metrics.ranges, values, Metrics.none, List.cons_append,
    List.nil_append, List.mem_cons, List.not_mem_nil, or_false] at among
  rcases among with rfl | rfl | rfl | rest
  · simp
  · simp
  · simp [Metrics.presence]
  · rcases rest with rfl | rfl | rfl | rfl | rfl <;> simp [Check.range] at fails

end Reading

/-! ## Alerts -/

/-- What an alert is held to. Its message is looked at without the blanks at its ends. -/
def NewAlert.checks (input : NewAlert) : List Check :=
  [⟨input.sensorId ≠ .nil, ⟨"sensor_id", "must not be empty"⟩⟩,
    ⟨1 ≤ (Text.trim input.message).length, ⟨"message", "must not be empty"⟩⟩,
    ⟨(Text.trim input.message).length ≤ 500, ⟨"message", "must be at most 500 characters"⟩⟩,
    .finite "value" input.value,
    .finite "threshold" input.threshold]

/-- Whether an alert was made from an input: it has one event, which tells of the input with its
message trimmed, and the record that comes of it. -/
structure Alert.MadeFrom (input : NewAlert) (id : EntityId) (now : Instant) (alert : Alert) :
    Prop where
  version : alert.version = 0
  pending : alert.pending = [.raised ⟨id, input.sensorId, input.kind, input.severity,
    Text.trim input.message, input.value, input.threshold, now⟩]
  record : alert.state.toRecord? = some ⟨id, input.sensorId, input.kind, input.severity,
    Text.trim input.message, input.value, input.threshold, .pending, now, none, none, none, none,
    none⟩

namespace Alert

variable {input : NewAlert}

theorem reports_faults (input : NewAlert) : Reports input.checks (faults input).toList := by
  have nothing : Reports [] Faults.none.toList := .nil
  have blank : decide ((Text.trim input.message).length = 0) = true ↔
      ¬ 1 ≤ (Text.trim input.message).length := by
    simp
  have long : decide (NewAlert.maxMessageLength < (Text.trim input.message).length) = true ↔
      ¬ (Text.trim input.message).length ≤ 500 := by
    rw [decide_eq_true_eq, NewAlert.maxMessageLength, Nat.not_le]
  have named := Faults.reports_check
    ⟨input.sensorId ≠ .nil, ⟨"sensor_id", "must not be empty"⟩⟩ nothing Id.isNil_iff
  have worded := Faults.reports_check
    ⟨1 ≤ (Text.trim input.message).length, ⟨"message", "must not be empty"⟩⟩ named blank
  have short := Faults.reports_check
    ⟨(Text.trim input.message).length ≤ 500, ⟨"message", "must be at most 500 characters"⟩⟩
    worded long
  exact Faults.reports_checkFinite (Faults.reports_checkFinite short "value" input.value)
    "threshold" input.threshold

theorem judges_raise (id : EntityId) (input : NewAlert) (now : Instant) :
    Judges input.checks (raise id input now) (MadeFrom input id now) :=
  Faults.judges_accept (reports_faults input) ⟨rfl, rfl, rfl⟩

end Alert

/-! ## Both -/

/-- A new reading, and a new alert, is made exactly if it passes all of its checks, as the input
says and under an identifier that was not given out before. If it is refused, each check that fails
is reported once, in the order of the checks; without any value, none of a range. -/
theorem factories_judge (source : IdSource) (now : Instant) :
    source.Unused (source.fresh .entity).1 ∧
      (∀ latest, now.add? NewReading.futureSkew = some latest → ∀ input : NewReading,
        Judges (input.checks (input.time ≤ latest))
          (Reading.create (source.fresh .entity).1 input now)
          (Reading.MadeFrom input (source.fresh .entity).1 now) ∧
        (input.metrics.isEmpty = true → ∀ faults,
          Reading.create (source.fresh .entity).1 input now = .error faults →
            ∀ fault ∈ faults.toList, fault.field ∈ ["sensor_id", "time", "metrics"])) ∧
      ∀ input : NewAlert,
        Judges input.checks (Alert.raise (source.fresh .entity).1 input now)
          (Alert.MadeFrom input (source.fresh .entity).1 now) := by
  refine ⟨source.unused_fresh .entity, fun latest inRange input => ?_, fun input => ?_⟩
  · have judges := Reading.judges_create (source.fresh .entity).1 input
      (Reading.isTooLate_iff inRange)
    refine ⟨judges, fun empty faults refused fault member => ?_⟩
    exact Reading.field_of_isEmpty empty (judges.reported faults refused) member
  · exact Alert.judges_raise _ input now

/-- Three minutes past the start of 1970. -/
def threePast : Instant := ⟨180, 0, by decide, by decide, by decide⟩

/-- The latest time that a reading may have then. -/
def eightPast : Instant := ⟨480, 0, by decide, by decide, by decide⟩

/-- A reading from no sensor and too far ahead, with one value that is no number and one that is out
of its range. -/
def strayReading : NewReading :=
  ⟨.nil, ⟨480, 1, by decide, by decide, by decide⟩,
    { Metrics.none with temperature := some .nan, humidity := some (.ofInt 101) }⟩

/-- All four faults of a stray reading are reported. -/
theorem strayReading_judged :
    threePast.add? NewReading.futureSkew = some eightPast ∧
      Reading.create ⟨1⟩ strayReading threePast = .error ⟨[⟨"sensor_id", "must not be empty"⟩,
        ⟨"time", "must not be more than 5 minutes in the future"⟩,
        ⟨"temperature", "must be a finite number"⟩, ⟨"humidity", "must be between 0 and 100"⟩]⟩ ∧
      Judges (strayReading.checks (strayReading.time ≤ eightPast))
        (Reading.create ⟨1⟩ strayReading threePast)
        (Reading.MadeFrom strayReading ⟨1⟩ threePast) := by
  have inRange : threePast.add? NewReading.futureSkew = some eightPast := by
    decide +kernel
  have judged := factories_judge ⟨fun count => BitVec.ofNat 128 (count + 1), 0⟩ threePast
  have refused : Reading.create ⟨1⟩ strayReading threePast = .error ⟨[⟨"sensor_id",
      "must not be empty"⟩, ⟨"time", "must not be more than 5 minutes in the future"⟩,
      ⟨"temperature", "must be a finite number"⟩, ⟨"humidity", "must be between 0 and 100"⟩]⟩ := by
    rfl
  exact ⟨inRange, refused, (judged.2.1 eightPast inRange strayReading).1⟩

end Fieldwatch
