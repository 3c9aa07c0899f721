import Fieldwatch.Alert.Basic
import Fieldwatch.Reading.Basic

/-!
# Alert rules

Thresholds on the metrics of a reading. A value strictly beyond its threshold asks for an alert;
the alerts of one reading come in a fixed order of the metrics.
-/
namespace Fieldwatch

structure AlertRules where
  highTemperature : Double
  lowTemperature : Double
  lowSoilMoisture : Double
  highHumidity : Double
  lowBattery : Double
  deriving DecidableEq

namespace AlertRules

def standard : AlertRules where
  highTemperature := .ofInt 40
  lowTemperature := .ofInt 0
  lowSoilMoisture := .ofInt 20
  highHumidity := .ofInt 90
  lowBattery := .ofInt 15

/-- An alert about a value and the threshold it crossed. -/
def crossing (sensorId : SensorId) (kind : AlertKind) (severity : Severity)
    (value threshold : Double) (message : String) : NewAlert :=
  ⟨sensorId, kind, severity, message, some value, some threshold⟩

def wording (what : String) (value : Double) (unit relation : String) (threshold : Double) :
    String :=
  what ++ " " ++ Decimal.plain value ++ unit ++ " is " ++ relation ++ " "
    ++ Decimal.plain threshold ++ unit

/-- The alert about a temperature: too high, else too low. -/
def ofTemperature (rules : AlertRules) (sensorId : SensorId) (value : Double) : List NewAlert :=
  if rules.highTemperature.lt value then
    [crossing sensorId .highTemperature .high value rules.highTemperature
      (wording "Temperature" value " °C" "above" rules.highTemperature)]
  else if value.lt rules.lowTemperature then
    [crossing sensorId .lowTemperature .high value rules.lowTemperature
      (wording "Temperature" value " °C" "below" rules.lowTemperature)]
  else []

def ofSoilMoisture (rules : AlertRules) (sensorId : SensorId) (value : Double) : List NewAlert :=
  if value.lt rules.lowSoilMoisture then
    [crossing sensorId .lowSoilMoisture .medium value rules.lowSoilMoisture
      (wording "Soil moisture" value "%" "below" rules.lowSoilMoisture)]
  else []

def ofHumidity (rules : AlertRules) (sensorId : SensorId) (value : Double) : List NewAlert :=
  if rules.highHumidity.lt value then
    [crossing sensorId .highHumidity .low value rules.highHumidity
      (wording "Humidity" value "%" "above" rules.highHumidity)]
  else []

def ofBattery (rules : AlertRules) (sensorId : SensorId) (value : Double) : List NewAlert :=
  if value.lt rules.lowBattery then
    [crossing sensorId .lowBattery .medium value rules.lowBattery
      (wording "Battery level" value "%" "below" rules.lowBattery)]
  else []

/-- The alerts that the metrics of a sensor ask for. -/
def evaluate (rules : AlertRules) (sensorId : SensorId) (metrics : Metrics) : List NewAlert :=
  metrics.temperature.toList.flatMap (rules.ofTemperature sensorId)
    ++ metrics.soilMoisture.toList.flatMap (rules.ofSoilMoisture sensorId)
    ++ metrics.humidity.toList.flatMap (rules.ofHumidity sensorId)
    ++ metrics.batteryLevel.toList.flatMap (rules.ofBattery sensorId)

/-- The alerts that a reading asks for; none before it is recorded. -/
def evaluateReading (rules : AlertRules) (state : ReadingState) : List NewAlert :=
  match state.sensorId with
  | some sensorId => rules.evaluate sensorId state.metrics
  | none => []

instance : Json.Wire AlertRules where
  encode rules := .record
    [("high_temperature", Json.encode rules.highTemperature),
      ("low_temperature", Json.encode rules.lowTemperature),
      ("low_soil_moisture", Json.encode rules.lowSoilMoisture),
      ("high_humidity", Json.encode rules.highHumidity),
      ("low_battery", Json.encode rules.lowBattery)]
  decode := Json.Record.decode (AlertRules.mk <$> .required "high_temperature"
    <*> .required "low_temperature" <*> .required "low_soil_moisture" <*> .required "high_humidity"
    <*> .required "low_battery") "AlertRules"

end AlertRules
end Fieldwatch
