import Fieldwatch.Json.Record
import Fieldwatch.Tracked
import Fieldwatch.Validation

/-!
# Readings

A reading is one sample of up to five metrics from a sensor, recorded once and never changed. A
new reading is checked against the clock and against the range of each metric.
-/
namespace Fieldwatch

/-- The sampled values; each may be absent. -/
structure Metrics where
  /-- Air temperature in degrees Celsius. -/
  temperature : Option Double
  /-- Relative humidity in percent. -/
  humidity : Option Double
  /-- Volumetric soil moisture in percent. -/
  soilMoisture : Option Double
  /-- Rainfall in millimetres. -/
  rainfall : Option Double
  /-- Battery charge in percent. -/
  batteryLevel : Option Double
  deriving DecidableEq, Inhabited

namespace Metrics

/-- All five values in order. -/
def toList (metrics : Metrics) : List (Option Double) :=
  [metrics.temperature, metrics.humidity, metrics.soilMoisture, metrics.rainfall,
    metrics.batteryLevel]

def none : Metrics := ⟨.none, .none, .none, .none, .none⟩

def isEmpty (metrics : Metrics) : Bool :=
  metrics.toList.all Option.isNone

def count (metrics : Metrics) : Nat :=
  metrics.toList.countP Option.isSome

/-- Checks that some value is present, and then the range of each. -/
def check (metrics : Metrics) (faults : Faults) : Faults :=
  if metrics.isEmpty then faults.push "metrics" "at least one metric is required"
  else
    ((((faults.checkRange "temperature" metrics.temperature (-50) 70).checkRange
      "humidity" metrics.humidity 0 100).checkRange
      "soil_moisture" metrics.soilMoisture 0 100).checkRange
      "rainfall" metrics.rainfall 0 1000).checkRange
      "battery_level" metrics.batteryLevel 0 100

def entries (metrics : Metrics) : List (String × Json) :=
  [("temperature", Json.encode metrics.temperature), ("humidity", Json.encode metrics.humidity),
    ("soil_moisture", Json.encode metrics.soilMoisture),
    ("rainfall", Json.encode metrics.rainfall),
    ("battery_level", Json.encode metrics.batteryLevel)]

def shape : Json.Record Metrics :=
  Metrics.mk <$> .optional "temperature" <*> .optional "humidity" <*> .optional "soil_moisture"
    <*> .optional "rainfall" <*> .optional "battery_level"

instance : Json.Wire Metrics where
  encode metrics := .record metrics.entries
  decode := shape.decode "ReadingMetrics"

end Metrics

structure NewReading where
  sensorId : SensorId
  time : Instant
  metrics : Metrics
  deriving DecidableEq

/-- How far ahead of the clock the time of a reading may be. -/
def NewReading.futureSkew : Span := .seconds 300

structure ReadingRecord where
  id : EntityId
  sensorId : SensorId
  time : Instant
  metrics : Metrics
  recordedAt : Instant
  deriving DecidableEq

/-- The fact that a reading was accepted. -/
structure ReadingRecorded where
  readingId : EntityId
  sensorId : SensorId
  time : Instant
  metrics : Metrics
  recordedAt : Instant
  deriving DecidableEq

inductive ReadingEvent
  | recorded (data : ReadingRecorded)
  deriving DecidableEq

/-- The state of a reading: nothing until it is recorded. -/
structure ReadingState where
  id : Option EntityId
  sensorId : Option SensorId
  time : Option Instant
  metrics : Metrics
  recordedAt : Option Instant
  deriving DecidableEq, Inhabited

/-- A reading with its version and pending events. -/
abbrev Reading := Tracked ReadingState ReadingEvent

namespace ReadingEvent

def name : ReadingEvent → String
  | recorded _ => "ReadingRecorded"

def occurredOn : ReadingEvent → Instant
  | recorded data => data.recordedAt

end ReadingEvent

namespace ReadingState

def empty : ReadingState := ⟨none, none, none, .none, none⟩

instance : EventSourced ReadingState ReadingEvent where
  empty := empty
  apply _ := fun
    | .recorded data =>
      ⟨some data.readingId, some data.sensorId, some data.time, data.metrics,
        some data.recordedAt⟩

/-- The stored form, if the reading was recorded. -/
def toRecord? (state : ReadingState) : Option ReadingRecord := do
  return {
    id := ← state.id
    sensorId := ← state.sensorId
    time := ← state.time
    metrics := state.metrics
    recordedAt := ← state.recordedAt }

end ReadingState

namespace Reading

/-- Whether a time lies further ahead than a reading may; without a limit in range none does. -/
def isTooLate (time now : Instant) : Bool :=
  match now.add? NewReading.futureSkew with
  | some limit => limit < time
  | none => false

def faults (input : NewReading) (now : Instant) : Faults :=
  let late := isTooLate input.time now
  input.metrics.check
    ((Faults.none.check input.sensorId.isNil "sensor_id" "must not be empty").check late
      "time" "must not be more than 5 minutes in the future")

/-- Records a new reading under an identifier, if it has no fault. -/
def create (id : EntityId) (input : NewReading) (now : Instant) : Except Faults Reading :=
  (faults input now).accept
    (Tracked.new.record (.recorded ⟨id, input.sensorId, input.time, input.metrics, now⟩))

def restore (record : ReadingRecord) : Reading :=
  .stored (EventSourced.apply ReadingState.empty
    (.recorded ⟨record.id, record.sensorId, record.time, record.metrics, record.recordedAt⟩)) 1

end Reading

/-! ## JSON forms -/

instance : Json.Wire NewReading where
  encode reading := .record
    ([("sensor_id", Json.encode reading.sensorId), ("time", Json.encode reading.time)]
      ++ reading.metrics.entries)
  decode := Json.Record.decodeWith (NewReading.mk <$> .required "sensor_id" <*> .required "time")
    Metrics.shape "NewReading"

instance : Json.Wire ReadingRecord where
  encode reading := .record
    ([("id", Json.encode reading.id), ("sensor_id", Json.encode reading.sensorId),
      ("time", Json.encode reading.time), ("recorded_at", Json.encode reading.recordedAt)]
      ++ reading.metrics.entries)
  decode := Json.Record.decodeWith
    ((fun id sensorId time recordedAt metrics => ⟨id, sensorId, time, metrics, recordedAt⟩)
      <$> .required "id" <*> .required "sensor_id" <*> .required "time"
      <*> .required "recorded_at")
    Metrics.shape "ReadingRecord"

instance : Json.Wire ReadingRecorded where
  encode data := .record
    [("reading_id", Json.encode data.readingId), ("sensor_id", Json.encode data.sensorId),
      ("time", Json.encode data.time), ("metrics", Json.encode data.metrics),
      ("recorded_at", Json.encode data.recordedAt)]
  decode := Json.Record.decode (ReadingRecorded.mk <$> .required "reading_id"
    <*> .required "sensor_id" <*> .required "time" <*> .required "metrics"
    <*> .required "recorded_at") "ReadingRecordedData"

instance : Json.Wire ReadingEvent where
  encode
    | .recorded data => Json.tagged "Recorded" (Json.encode data)
  decode := Json.decodeTagged "ReadingEvent"
    [("Recorded", fun place data => (Json.Wire.decode place data).map .recorded)]

instance : Json.Wire ReadingState where
  encode state := .record
    [("id", Json.encode state.id), ("sensor_id", Json.encode state.sensorId),
      ("time", Json.encode state.time), ("metrics", Json.encode state.metrics),
      ("recorded_at", Json.encode state.recordedAt)]
  decode := Json.Record.decode (ReadingState.mk <$> .optional "id" <*> .optional "sensor_id"
    <*> .optional "time" <*> .required "metrics" <*> .optional "recorded_at") "SensorReading"

end Fieldwatch
