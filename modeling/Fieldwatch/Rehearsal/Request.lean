import Fieldwatch.Alert.Rules
import Fieldwatch.Event.Message
import Fieldwatch.Rehearsal.Report
import Fieldwatch.Store.Query

/-!
# Requests

How the steps of a script are read. A field that is absent is the same as null. A metric or a
threshold may be a number or the name of one that is not finite.
-/
namespace Fieldwatch.Rehearsal

def badInput {α : Type} (message : String) : Answer α :=
  .error (errorReport "BadInput" message [])

/-! ## Fields -/

def field (value : Json) (name : String) : Json := (value.get? name).getD .null

def need (α : Type) [Json.Wire α] (value : Json) (name : String) : Answer α :=
  match Json.decode α (field value name) with
  | .ok found => .ok found
  | .error error => badInput (name ++ ": " ++ error.message)

def may (α : Type) [Json.Wire α] (value : Json) (name : String) : Answer (Option α) :=
  need (Option α) value name

def isTrue (value : Json) (name : String) : Bool :=
  match field value name with
  | .bool found => found
  | _ => false

/-- The items of a list; none if it is absent. -/
def itemsOf (value : Json) (name : String) : List Json :=
  match field value name with
  | .arr items => items
  | _ => []

def listOf (α : Type) [Json.Wire α] (value : Json) (name : String) : Answer (List α) :=
  (itemsOf value name).mapM fun item => need α (.record [(name, item)]) name

def mayInt (value : Json) (name : String) : Answer (Option Int) :=
  match field value name with
  | .null => .ok none
  | .int found => .ok (some found)
  | _ => badInput name

def mayNat (value : Json) (name : String) : Answer (Option Nat) := do
  return (← mayInt value name).map Int.toNat

/-- A number that may be there, or the name of one that is not finite. -/
def mayFloat (value : Json) (name : String) : Answer (Option Double) :=
  match field value name with
  | .null => .ok none
  | .int found => .ok (some (Double.ofInt found))
  | .float found => .ok (some found)
  | .str "NaN" => .ok (some Double.nan)
  | .str "inf" => .ok (some Double.infinity)
  | .str "-inf" => .ok (some Double.negInfinity)
  | _ => badInput name

/-! ## Inputs of use cases -/

def metricsOf (value : Json) : Answer Metrics := do
  return {
    temperature := ← mayFloat value "temperature"
    humidity := ← mayFloat value "humidity"
    soilMoisture := ← mayFloat value "soil_moisture"
    rainfall := ← mayFloat value "rainfall"
    batteryLevel := ← mayFloat value "battery_level" }

/-- A new reading; its time is that of the clock if it has none. -/
def readingOf (value : Json) (now : Instant) : Answer NewReading := do
  return ⟨← need SensorId value "sensor_id", (← may Instant value "time").getD now,
    ← metricsOf value⟩

def alertOf (value : Json) : Answer NewAlert := do
  return {
    sensorId := ← need SensorId value "sensor_id"
    kind := ← AlertKind.ofText (← need String value "kind")
    severity := ← Severity.ofText (← need String value "severity")
    message := ← need String value "message"
    value := ← mayFloat value "value"
    threshold := ← mayFloat value "threshold" }

/-- Alert rules; an absent threshold has its usual value. -/
def rulesOf (value : Json) : Answer AlertRules := do
  let usual := AlertRules.standard
  return {
    highTemperature := (← mayFloat value "high_temperature").getD usual.highTemperature
    lowTemperature := (← mayFloat value "low_temperature").getD usual.lowTemperature
    lowSoilMoisture := (← mayFloat value "low_soil_moisture").getD usual.lowSoilMoisture
    highHumidity := (← mayFloat value "high_humidity").getD usual.highHumidity
    lowBattery := (← mayFloat value "low_battery").getD usual.lowBattery }

def queryOf (value : Json) : Answer ReadingQuery := do
  return {
    sensorId := ← may SensorId value "sensor_id"
    earliest := ← may Instant value "from"
    latest := ← may Instant value "to"
    limit := (← mayNat value "limit").map UInt64.ofNat
    offset := (← mayNat value "offset").map UInt64.ofNat }

def livenessOf (value : Json) : Liveness :=
  if isTrue value "inactive" then .includeInactive else .activeOnly

def messageOf (value : Json) : Answer Message := do
  match Message.ofJson (← need String value "event_type") (field value "event") with
  | .ok message => return message
  | .error (.unreadable cause) => throw (report cause)
  | .error error => throw (report error)

/-- A number of nanoseconds, given in seconds or in milliseconds. -/
def retentionOf (value : Json) : Answer Nat := do
  match ← mayNat value "retention_secs", ← mayNat value "retention_ms" with
  | some count, _ => return count * 1000000000
  | none, some count => return count * 1000000
  | none, none => badInput "retention"

def environmentOf (value : Json) : Settings.Environment := fun name =>
  match field value name with
  | .str text => some text
  | _ => none

end Fieldwatch.Rehearsal
