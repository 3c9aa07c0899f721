/-!
# Identifiers

Every entity, event and causal chain is named by a 128-bit universally unique identifier. The kind
of thing named is part of the type. An identifier is written in lower case with hyphens, and read
in four forms, whatever the case of its digits.
-/
namespace Fieldwatch

inductive IdKind
  /-- A reading or an alert of this service. -/
  | entity
  /-- A sensor of the farm service. -/
  | sensor
  /-- A user of the identity service. -/
  | owner
  /-- A property of the farm service. -/
  | property
  /-- A plot of the farm service. -/
  | plot
  /-- A causal chain of events across services. -/
  | correlation
  /-- One integration event, stable across redeliveries. -/
  | event
  /-- An entry of the outbox. -/
  | entry
  deriving DecidableEq, Repr

structure Id (kind : IdKind) where
  value : BitVec 128
  deriving DecidableEq, Repr

abbrev EntityId := Id .entity
abbrev SensorId := Id .sensor
abbrev OwnerId := Id .owner
abbrev PropertyId := Id .property
abbrev PlotId := Id .plot
abbrev CorrelationId := Id .correlation
abbrev EventId := Id .event
abbrev EntryId := Id .entry

namespace Id

variable {kind : IdKind}

/-- The all-zero identifier, which names nothing. -/
def nil : Id kind := ⟨0⟩

instance : Inhabited (Id kind) := ⟨nil⟩

def isNil (id : Id kind) : Bool := id.value = 0

/-- The same identifier, naming a thing of another kind. -/
def cast (id : Id kind) (other : IdKind) : Id other := ⟨id.value⟩

instance : LT (Id kind) := ⟨fun a b => a.value < b.value⟩
instance : LE (Id kind) := ⟨fun a b => a.value ≤ b.value⟩
instance (a b : Id kind) : Decidable (a < b) := inferInstanceAs (Decidable (a.value < b.value))
instance (a b : Id kind) : Decidable (a ≤ b) := inferInstanceAs (Decidable (a.value ≤ b.value))

/-- The lower-case digit of a number below sixteen. -/
def hexDigit (number : Nat) : Char :=
  Char.ofNat (if number < 10 then 48 + number else 87 + number)

/-- The number a hexadecimal digit stands for. -/
def hexValue? (c : Char) : Option Nat :=
  let code := c.toNat
  if 48 ≤ code && code ≤ 57 then some (code - 48)
  else if 97 ≤ code && code ≤ 102 then some (code - 87)
  else if 65 ≤ code && code ≤ 70 then some (code - 55)
  else none

/-- The thirty-two digits of an identifier, highest first. -/
def digits (id : Id kind) : List Char :=
  (List.range 32).map fun place => hexDigit (id.value.toNat / Nat.pow 16 (31 - place) % 16)

/-- Thirty-two digits in groups of eight, four, four, four and twelve. -/
def hyphenate (chars : List Char) : List Char :=
  chars.take 8 ++ '-' :: (chars.drop 8).take 4 ++ '-' :: (chars.drop 12).take 4
    ++ '-' :: (chars.drop 16).take 4 ++ '-' :: chars.drop 20

/-- The written form: lower case, with hyphens. -/
def text (id : Id kind) : String :=
  String.ofList (hyphenate id.digits)

instance : ToString (Id kind) := ⟨text⟩

def ofDigits? (chars : List Char) : Option (Id kind) :=
  if chars.length = 32 then
    (chars.mapM hexValue?).map fun values =>
      ⟨BitVec.ofNat 128 (values.foldl (fun number digit => number * 16 + digit) 0)⟩
  else none

/-- Thirty-six characters without the hyphens at their four places. -/
def unhyphenate? (chars : List Char) : Option (List Char) :=
  if chars.length = 36 && [8, 13, 18, 23].all fun place => chars[place]? = some '-' then
    some (chars.take 8 ++ (chars.drop 9).take 4 ++ (chars.drop 14).take 4
      ++ (chars.drop 19).take 4 ++ chars.drop 24)
  else none

def ofHyphenated? (chars : List Char) : Option (Id kind) :=
  (unhyphenate? chars).bind ofDigits?

/-- Reads an identifier in one of its four forms: hyphenated, bare digits, hyphenated in braces,
or hyphenated after `urn:uuid:`. -/
def ofText? (text : String) : Option (Id kind) :=
  let chars := text.toList
  if chars.length = 32 then ofDigits? chars
  else if chars.length = 36 then ofHyphenated? chars
  else if chars.length = 38 then
    if chars.head? = some '\x7b' && chars.getLast? = some '\x7d' then
      ofHyphenated? ((chars.drop 1).take 36)
    else none
  else if chars.length = 45 then
    if chars.take 9 = "urn:uuid:".toList then ofHyphenated? (chars.drop 9) else none
  else none

end Id

/-! ## Fresh identifiers -/

/-- A supply of identifiers: those that it gives out in turn, and how many it has given out. -/
structure IdSource where
  draw : Nat → BitVec 128
  used : Nat

namespace IdSource

/-- The identifier that will be given out after `count` more. -/
def peek (source : IdSource) (count : Nat) (kind : IdKind) : Id kind :=
  ⟨source.draw (source.used + count)⟩

/-- The next identifier, and the supply after it. -/
def fresh (source : IdSource) (kind : IdKind) : Id kind × IdSource :=
  (source.peek 0 kind, { source with used := source.used + 1 })

end IdSource
end Fieldwatch
