import Fieldwatch.Json.Decode

/-!
# Records

How records and tagged events are read from a JSON value. The entries of an object are visited in
the order of their keys, and the first that cannot be read decides the error; after that the first
missing field in declaration order does. Entries of no field are skipped.
-/
namespace Fieldwatch.Json

/-- A field of a record: its name, and whether a value can be read as the field's. -/
structure FieldRule where
  name : String
  check : Place → Json → Except DecodeError Unit

/-- How a record is read: its fields in declaration order, and the record made of the values found
under their names. -/
structure Record (α : Type) where
  fields : List FieldRule
  build : Place → (String → Option Json) → Except DecodeError α

namespace Record

variable {α β : Type}

def checkOnly (decoder : Decoder α) (place : Place) (value : Json) : Except DecodeError Unit :=
  (decoder place value).map fun _ => ()

protected def pure (value : α) : Record α := ⟨[], fun _ _ => .ok value⟩

def required [Wire α] (name : String) : Record α where
  fields := [⟨name, checkOnly (Wire.decode (α := α))⟩]
  build place find :=
    match find name with
    | some value => Wire.decode place value
    | none => .error (.missingField name)

/-- A field that may be absent, which means the same as null. -/
def optional [Wire α] (name : String) : Record (Option α) where
  fields := [⟨name, checkOnly (Wire.decode (α := Option α))⟩]
  build place find :=
    match find name with
    | some value => Wire.decode place value
    | none => .ok none

/-- Two records read side by side, the fields of the first declared first. -/
protected def seq (first : Record (α → β)) (second : Record α) : Record β where
  fields := first.fields ++ second.fields
  build place find := do
    let make ← first.build place find
    let value ← second.build place find
    return make value

instance : Functor Record where
  map make record := ⟨record.fields, fun place find => (record.build place find).map make⟩

instance : Applicative Record where
  pure := Record.pure
  seq first second := Record.seq first (second ())

def field? (record : Record α) (name : String) : Option FieldRule :=
  record.fields.find? fun field => field.name = name

/-- Checks the entries that belong to fields, in the order given. -/
def checkEntries (record : Record α) (place : Place) :
    List (String × Json) → Except DecodeError Unit
  | [] => .ok ()
  | (key, value) :: rest =>
    match record.field? key with
    | some field => do
      field.check place value
      record.checkEntries place rest
    | none => record.checkEntries place rest

/-- Reads the record from the entries of an object. -/
def ofEntries (record : Record α) (place : Place) (entries : List (String × Json)) :
    Except DecodeError α := do
  record.checkEntries place entries
  record.build place (lookup · entries)

def elements (count : Nat) : String :=
  if count = 1 then "1 element" else toString count ++ " elements"

/-- Checks items against fields one by one; `done` fields have been matched before. -/
def checkItems (name : String) (count : Nat) (place : Place) :
    Nat → List FieldRule → List Json → Except DecodeError Unit
  | _, [], [] => .ok ()
  | done, [], rest =>
    let expected := match place with
      | .direct => "fewer elements in array"
      | .keptAside => elements count ++ " in sequence"
    .error (.invalidLength (done + rest.length) expected)
  | done, _ :: _, [] =>
    .error (.invalidLength done ("struct " ++ name ++ " with " ++ elements count))
  | done, field :: fields, value :: rest => do
    field.check place value
    checkItems name count place (done + 1) fields rest

/-- Reads a record from an object, or from a sequence of its fields in declaration order. -/
def decode (record : Record α) (name : String) : Decoder α
  | place, .obj entries => record.ofEntries place entries
  | place, .arr items => do
    checkItems name record.fields.length place 0 record.fields items
    record.build place (lookup · ((record.fields.map FieldRule.name).zip items))
  | _, other => .error (.invalidType (.of other) ("struct " ++ name))

/-- Reads a record that has the fields of a second one among its own, from an object only. Its own
fields are read first, then those of the second. -/
def decodeWith (own : Record (α → β)) (inner : Record α) (name : String) : Decoder β
  | place, .obj entries => do
    let make ← own.ofEntries place entries
    let value ← inner.ofEntries .keptAside entries
    return make value
  | _, other => .error (.invalidType (.of other) ("struct " ++ name))

end Record

/-! ## Tagged events -/

/-- Reads an object of a `type` and `data`, where the type says how the data is read. The data is
kept aside until the type is known. -/
def decodeTagged {α : Type} (name : String) (choices : List (String × Decoder α)) : Decoder α
  | place, .obj entries =>
    match lookup "data" entries, lookup "type" entries with
    | some data, some tag => do
      let decodeData ← decodeChoice choices place tag
      decodeData .keptAside data
    | none, some tag => do
      let _ ← decodeChoice choices place tag
      .error (.missingField "data")
    | _, none => .error (.missingField "type")
  | place, .arr items => do
    let expected := "adjacently tagged enum " ++ name
    match items with
    | [] => .error (.invalidLength 0 expected)
    | [tag] => do
      let _ ← decodeChoice choices place tag
      .error (.invalidLength 1 expected)
    | tag :: data :: rest => do
      let decodeData ← decodeChoice choices place tag
      let value ← decodeData place data
      if rest.isEmpty then return value
      else .error (.invalidLength items.length "fewer elements in array")
  | _, other => .error (.invalidType (.of other) ("adjacently tagged enum " ++ name))

def tagged (tag : String) (data : Json) : Json :=
  record [("data", data), ("type", .str tag)]

end Fieldwatch.Json
