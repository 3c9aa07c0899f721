import Fieldwatch.Json.Record
import Fieldwatch.Validation

/-!
# Kinds, severities and statuses of alerts

The closed sets of names by which an alert is graded: what it reports, how grave it is, and how far
its handling has come.
-/
namespace Fieldwatch

inductive AlertKind
  | highTemperature
  | lowTemperature
  | lowSoilMoisture
  | highHumidity
  | lowBattery
  /-- Raised by an operator. -/
  | custom
  deriving DecidableEq, Repr

namespace AlertKind

def name : AlertKind → String
  | highTemperature => "HighTemperature"
  | lowTemperature => "LowTemperature"
  | lowSoilMoisture => "LowSoilMoisture"
  | highHumidity => "HighHumidity"
  | lowBattery => "LowBattery"
  | custom => "Custom"

def all : List AlertKind :=
  [highTemperature, lowTemperature, lowSoilMoisture, highHumidity, lowBattery, custom]

def named : List (String × AlertKind) := all.map fun kind => (kind.name, kind)

def ofText (text : String) : Except UnknownName AlertKind := findNamed "alert kind" named text

instance : Json.Wire AlertKind where
  encode kind := .str kind.name
  decode := Json.decodeChoice named

end AlertKind

inductive Severity
  | low
  | medium
  | high
  | critical
  deriving DecidableEq, Repr

namespace Severity

def name : Severity → String
  | low => "Low"
  | medium => "Medium"
  | high => "High"
  | critical => "Critical"

/-- Every severity, the least urgent first. -/
def all : List Severity := [low, medium, high, critical]

def named : List (String × Severity) := all.map fun severity => (severity.name, severity)

def ofText (text : String) : Except UnknownName Severity := findNamed "alert severity" named text

/-- The place of a severity, the least urgent at zero. -/
def rank : Severity → Nat
  | low => 0
  | medium => 1
  | high => 2
  | critical => 3

/-- Compares by urgency. -/
def compare (a b : Severity) : Ordering := Ord.compare a.rank b.rank

instance : Json.Wire Severity where
  encode severity := .str severity.name
  decode := Json.decodeChoice named

end Severity

/-- Where an alert stands: pending, then perhaps acknowledged, then resolved for good. -/
inductive AlertStatus
  | pending
  | acknowledged
  | resolved
  deriving DecidableEq, Repr

namespace AlertStatus

def name : AlertStatus → String
  | pending => "Pending"
  | acknowledged => "Acknowledged"
  | resolved => "Resolved"

def named : List (String × AlertStatus) :=
  [pending, acknowledged, resolved].map fun status => (status.name, status)

def ofText (text : String) : Except UnknownName AlertStatus :=
  findNamed "alert status" named text

/-- Nothing follows a resolved alert. -/
def isTerminal (status : AlertStatus) : Bool := status = resolved

/-- Only a pending alert can be acknowledged. -/
def canAcknowledge (status : AlertStatus) : Bool := status = pending

/-- Every alert that is not resolved can be. -/
def canResolve (status : AlertStatus) : Bool := !status.isTerminal

instance : Json.Wire AlertStatus where
  encode status := .str status.name
  decode := Json.decodeChoice named

end AlertStatus

end Fieldwatch
