import Fieldwatch.Id
import Fieldwatch.Json.Basic

/-!
# Labels

A transcript shows generated identifiers by number, in the order in which they first appear, so
that it does not depend on how they were generated; a script names them by the same numbers.
-/
namespace Fieldwatch.Rehearsal

/-- The generated identifiers that have appeared so far, in order. -/
abbrev Labels := Array (BitVec 128)

namespace Labels

/-- The first of the identifiers that a rehearsal generates. -/
def firstId : BitVec 128 := 0x5eed0b5c7a914d3f8e62c1d400000000#128

/-- The supply of identifiers of a rehearsal. -/
def source : IdSource := ⟨fun place => firstId + BitVec.ofNat 128 place, 0⟩

def isGenerated (value : BitVec 128) : Bool :=
  decide (firstId ≤ value) && decide (value < firstId + 0x80000000#128)

/-- The number of an identifier, from one, if it has appeared. -/
def number? (labels : Labels) (value : BitVec 128) : Option Nat :=
  (labels.findIdx? (· == value)).map (· + 1)

def labelText (number : Nat) : List Char := '$' :: Nat.toDigits 10 number

/-- The label of an identifier that appears. -/
def appear (value : BitVec 128) : StateM Labels (List Char) := do
  let labels ← get
  match labels.number? value with
  | some number => return labelText number
  | none =>
    set (labels.push value)
    return labelText (labels.size + 1)

/-- Replaces the generated identifiers in a text; `skip` characters belong to one already
replaced. -/
def labelChars : Nat → List Char → StateM Labels (List Char)
  | _, [] => return []
  | skip + 1, _ :: rest => labelChars skip rest
  | 0, c :: rest => do
    let found : Option EntityId :=
      if (rest.drop 7).head? = some '-' then Id.ofHyphenated? ((c :: rest).take 36) else none
    match found.filter fun id => isGenerated id.value with
    | some id =>
      let label ← appear id.value
      return label ++ (← labelChars 35 rest)
    | none => return c :: (← labelChars 0 rest)

/-- Replaces the generated identifiers in a value. -/
def label : Json → StateM Labels Json :=
  Json.mapLeavesM fun leaf =>
    match leaf with
    | .str text =>
      if text.length < 36 then return leaf
      else return .str (String.ofList (← labelChars 0 text.toList))
    | _ => return leaf

def find? (labels : Labels) (text : String) : Option EntityId :=
  match text.toList with
  | '$' :: digits =>
    match (String.ofList digits).toNat? with
    | some (place + 1) => labels[place]?.map Id.mk
    | _ => none
  | _ => none

/-- Puts the identifiers in the place of their labels. -/
def resolve (labels : Labels) : Json → Json :=
  Json.mapLeaves fun leaf =>
    match leaf with
    | .str text =>
      match labels.find? text with
      | some id => .str id.text
      | none => leaf
    | _ => leaf

/-- Rows with those that tie in the order of their labels; `ties` says which neighbours tie. -/
def sortTies {α : Type} (labels : Labels) (id : α → EntityId) (ties : α → α → Bool)
    (rows : List α) : List α :=
  let place (row : α) : Nat := (labels.number? (id row).value).getD (labels.size + 1)
  (rows.splitBy ties).flatMap fun group => group.mergeSort fun a b => decide (place a ≤ place b)

end Labels
end Fieldwatch.Rehearsal
