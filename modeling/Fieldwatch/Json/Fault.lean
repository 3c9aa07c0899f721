import Fieldwatch.Decimal.Notation
import Fieldwatch.Json.Basic
import Fieldwatch.Text.Quoted

/-!
# Why a JSON value cannot be read

What was found and what was expected in its place, and the wording of that.
-/
namespace Fieldwatch.Json

/-- What was found where something else was expected. -/
inductive Found
  | null
  | bool (value : Bool)
  | int (value : Int)
  | float (value : Double)
  | str (value : String)
  | sequence
  | map
  deriving DecidableEq

/-- Why a JSON value cannot be read as a value of some type. -/
inductive DecodeError
  /-- A value of the wrong kind. -/
  | invalidType (found : Found) (expected : String)
  /-- A value of the right kind that is out of range or of the wrong shape. -/
  | invalidValue (found : Found) (expected : String)
  /-- A sequence with too few or too many items. -/
  | invalidLength (length : Nat) (expected : String)
  /-- A field that is required and absent. -/
  | missingField (name : String)
  /-- A name outside a closed set of names. -/
  | unknownVariant (name : String) (known : List String)
  /-- A text that is no identifier. -/
  | malformedId
  /-- A text that is no instant. -/
  | malformedInstant
  deriving DecidableEq

namespace Found

def text : Found → String
  | .null => "null"
  | .bool value => "boolean \x60" ++ toString value ++ "\x60"
  | .int value => "integer \x60" ++ toString value ++ "\x60"
  | .float value => "floating point \x60" ++ Decimal.pointed value ++ "\x60"
  | .str value => "string " ++ Text.quote value
  | .sequence => "sequence"
  | .map => "map"

def of : Json → Found
  | .null => .null
  | .bool value => .bool value
  | .int value => .int value
  | .float value => .float value
  | .str value => .str value
  | .arr _ => .sequence
  | .obj _ => .map

end Found

def ticked (name : String) : String := "\x60" ++ name ++ "\x60"

def oneOf : List String → String
  | [] => "there are no variants"
  | [a] => "expected " ++ ticked a
  | [a, b] => "expected " ++ ticked a ++ " or " ++ ticked b
  | names => "expected one of " ++ ", ".intercalate (names.map ticked)

def DecodeError.message : DecodeError → String
  | .invalidType found expected => "invalid type: " ++ found.text ++ ", expected " ++ expected
  | .invalidValue found expected => "invalid value: " ++ found.text ++ ", expected " ++ expected
  | .invalidLength length expected =>
    "invalid length " ++ toString length ++ ", expected " ++ expected
  | .missingField name => "missing field " ++ ticked name
  | .unknownVariant name known => "unknown variant " ++ ticked name ++ ", " ++ oneOf known
  | .malformedId => "invalid UUID"
  | .malformedInstant => "invalid timestamp"

end Fieldwatch.Json
