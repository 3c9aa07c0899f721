import Fieldwatch.Json.Record
import Fieldwatch.Text.Blank
import Fieldwatch.Validation

/-!
# Operational status

What the farm service says about a sensor. Only an active sensor accepts readings.
-/
namespace Fieldwatch

inductive SensorStatus
  | active
  | inactive
  | maintenance
  | faulty
  deriving DecidableEq, Repr

namespace SensorStatus

def name : SensorStatus → String
  | active => "Active"
  | inactive => "Inactive"
  | maintenance => "Maintenance"
  | faulty => "Faulty"

def all : List SensorStatus := [active, inactive, maintenance, faulty]

/-- Whether a sensor of this status accepts readings. -/
def isActive (status : SensorStatus) : Bool := status = active

/-- ASCII letters in lower case, all else unchanged. -/
def folded (text : String) : List Char := text.toList.map Char.toLower

/-- Reads the name of a status, the case of ASCII letters and blanks at the ends ignored. -/
def ofText (text : String) : Except UnknownName SensorStatus :=
  match all.find? fun status => folded status.name = folded (Text.trim text) with
  | some status => .ok status
  | none => .error ⟨"operational status", text⟩

instance : Json.Wire SensorStatus where
  encode status := .str status.name
  decode := Json.decodeChoice (all.map fun status => (status.name, status))

end SensorStatus
end Fieldwatch
