import Fieldwatch.Id
import Fieldwatch.Json.Fault
import Fieldwatch.Time.Rfc3339

/-!
# Reading values out of JSON

How scalars, optional values and choices are read from a JSON value and written back.
-/
namespace Fieldwatch.Json

/-- Where a value stands: read at its place, or kept aside until the tag that names its type has
been read. -/
inductive Place
  | direct
  | keptAside
  deriving DecidableEq

abbrev Decoder (α : Type) := Place → Json → Except DecodeError α

class Wire (α : Type) where
  /-- The JSON form of a value. -/
  encode : α → Json
  /-- The value of a JSON form. -/
  decode : Decoder α

export Wire (encode)

def decode (α : Type) [Wire α] (value : Json) : Except DecodeError α :=
  Wire.decode .direct value

/-! ## Scalars -/

instance : Wire Json where
  encode value := value
  decode _ value := .ok value

instance : Wire String where
  encode := .str
  decode _
    | .str value => .ok value
    | other => .error (.invalidType (.of other) "a string")

instance : Wire Bool where
  encode := .bool
  decode _
    | .bool value => .ok value
    | other => .error (.invalidType (.of other) "a boolean")

/-- The form of a number is the number itself, whichever it is. In a text null stands for infinities
and for what is no number, so that only finite numbers are read back from there; the factories of
readings and alerts accept no others. -/
instance : Wire Double where
  encode := .float
  decode _
    | .float value => .ok value
    | .int value => .ok (Double.ofInt value)
    | other => .error (.invalidType (.of other) "f64")

instance {kind : IdKind} : Wire (Id kind) where
  encode id := .str id.text
  decode _
    | .str text =>
      match Id.ofText? text with
      | some id => .ok id
      | none => .error .malformedId
    | other => .error (.invalidType (.of other) "a formatted UUID string")

instance : Wire Instant where
  encode moment := .str moment.text
  decode _
    | .str text =>
      match Time.instant? text with
      | some moment => .ok moment
      | none => .error .malformedInstant
    | other => .error (.invalidType (.of other) "an RFC 3339 formatted date and time string")

/-- Reads a whole number between two bounds. -/
def intBetween (low high : Int) (name : String) : Decoder Int
  | _, .int value =>
    if low ≤ value ∧ value ≤ high then .ok value else .error (.invalidValue (.int value) name)
  | _, other => .error (.invalidType (.of other) name)

instance : Wire UInt16 where
  encode value := .int value.toNat
  decode place value := (intBetween 0 65535 "u16" place value).map fun n => UInt16.ofNat n.toNat

instance : Wire UInt32 where
  encode value := .int value.toNat
  decode place value :=
    (intBetween 0 4294967295 "u32" place value).map fun n => UInt32.ofNat n.toNat

instance : Wire Int64 where
  encode value := .int value.toInt
  decode place value :=
    (intBetween (-9223372036854775808) 9223372036854775807 "i64" place value).map Int64.ofInt

instance {α : Type} [Wire α] : Wire (Option α) where
  encode
    | none => .null
    | some value => encode value
  decode
    | _, .null => .ok none
    | place, value => (Wire.decode place value).map some

/-! ## Choices -/

/-- Reads the nothing that stands beside the name of a choice. -/
def decodeUnit : Decoder Unit
  | _, .null => .ok ()
  | .keptAside, .obj [] => .ok ()
  | _, other => .error (.invalidType (.of other) "unit")

def choose {α : Type} (choices : List (String × α)) (name : String) : Except DecodeError α :=
  match choices.find? fun choice => choice.1 = name with
  | some choice => .ok choice.2
  | none => .error (.unknownVariant name (choices.map Prod.fst))

/-- Reads one of a closed set of choices: its name, or an object with its name as only key and
nothing under it. -/
def decodeChoice {α : Type} (choices : List (String × α)) : Decoder α
  | _, .str name => choose choices name
  | place, .obj [(name, value)] => do
    let choice ← choose choices name
    decodeUnit place value
    return choice
  | _, .obj _ => .error (.invalidValue .map "map with a single key")
  | _, other => .error (.invalidType (.of other) "string or map")

end Fieldwatch.Json
