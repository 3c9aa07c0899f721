import Fieldwatch.Decimal.Notation
import Fieldwatch.Id
import Fieldwatch.Json.Number

/-!
# JSON text

Reading and writing the text form of a JSON value. A lone surrogate is refused, and so is a number
too large for a double.
-/
namespace Fieldwatch.Json

/-! ## Writing -/

/-- A number in `width` hexadecimal digits. -/
def hexPadded (width number : Nat) : List Char :=
  let digits := Nat.toDigits 16 number
  List.replicate (width - digits.length) '0' ++ digits

/-- The characters that stand for one character of a string. -/
def escapedChar (c : Char) : List Char :=
  if c = '"' then ['\\', '"']
  else if c = '\\' then ['\\', '\\']
  else if c = '\n' then ['\\', 'n']
  else if c = '\r' then ['\\', 'r']
  else if c = '\t' then ['\\', 't']
  else if c.toNat < 0x20 || c.toNat = 0x85 || c.toNat = 0x2028 || c.toNat = 0x2029 then
    '\\' :: 'u' :: hexPadded 4 c.toNat
  else [c]

def stringText (text : String) : String :=
  String.ofList ('"' :: text.toList.flatMap escapedChar ++ ['"'])

mutual

def text : Json → String
  | .null => "null"
  | .bool true => "true"
  | .bool false => "false"
  | .int value => toString value
  | .float value => Decimal.pointed value
  | .str value => stringText value
  | .arr items => "[" ++ itemsText items ++ "]"
  | .obj entries => "\x7b" ++ entriesText entries ++ "\x7d"

/-- The texts of items with commas between them. -/
def itemsText : List Json → String
  | [] => ""
  | [item] => text item
  | item :: rest => text item ++ "," ++ itemsText rest

/-- The texts of entries with commas between them. -/
def entriesText : List (String × Json) → String
  | [] => ""
  | [(key, value)] => stringText key ++ ":" ++ text value
  | (key, value) :: rest => stringText key ++ ":" ++ text value ++ "," ++ entriesText rest

end

/-! ## Reading -/

/-- The text after its leading JSON space. -/
def skipSpace (chars : List Char) : List Char :=
  chars.dropWhile fun c => c = ' ' || c = '\n' || c = '\t' || c = '\r'

def hex? (width : Nat) (chars : List Char) : Option (Nat × List Char) :=
  let taken := chars.take width
  if taken.length = width then
    (taken.mapM Id.hexValue?).map fun values =>
      (values.foldl (fun number digit => number * 16 + digit) 0, chars.drop width)
  else none

/-- Reads the digits after `\u`, and the second half of a surrogate pair. -/
def codePoint? (chars : List Char) : Option (Char × List Char) := do
  let (high, rest) ← hex? 4 chars
  if 0xd800 ≤ high && high < 0xdc00 then
    match rest with
    | '\\' :: 'u' :: rest =>
      let (low, rest) ← hex? 4 rest
      if 0xdc00 ≤ low && low < 0xe000 then
        return (Char.ofNat (0x10000 + (high - 0xd800) * 0x400 + (low - 0xdc00)), rest)
      else none
    | _ => none
  else if 0xdc00 ≤ high && high < 0xe000 then none
  else return (Char.ofNat high, rest)

/-- Reads the rest of a string after its opening quote; `fuel` bounds its length. -/
def stringRest? : Nat → List Char → List Char → Option (String × List Char)
  | 0, _, _ => none
  | fuel + 1, done, chars =>
    match chars with
    | '"' :: rest => some (String.ofList done.reverse, rest)
    | '\\' :: 'u' :: rest =>
      match codePoint? rest with
      | some (c, rest) => stringRest? fuel (c :: done) rest
      | none => none
    | '\\' :: c :: rest =>
      if c = '"' || c = '\\' || c = '/' then stringRest? fuel (c :: done) rest
      else if c = 'n' then stringRest? fuel ('\n' :: done) rest
      else if c = 't' then stringRest? fuel ('\t' :: done) rest
      else if c = 'r' then stringRest? fuel ('\r' :: done) rest
      else if c = 'b' then stringRest? fuel ('\x08' :: done) rest
      else if c = 'f' then stringRest? fuel ('\x0c' :: done) rest
      else none
    | c :: rest => if c.toNat < 0x20 then none else stringRest? fuel (c :: done) rest
    | [] => none

mutual

/-- Reads a value; `fuel` bounds the number of values and entries in it. -/
def value? : Nat → List Char → Option (Json × List Char)
  | 0, _ => none
  | fuel + 1, chars =>
    match skipSpace chars with
    | 'n' :: 'u' :: 'l' :: 'l' :: rest => some (.null, rest)
    | 't' :: 'r' :: 'u' :: 'e' :: rest => some (.bool true, rest)
    | 'f' :: 'a' :: 'l' :: 's' :: 'e' :: rest => some (.bool false, rest)
    | '"' :: rest =>
    (stringRest? (rest.length + 1) [] rest).map fun (text, rest) => (.str text, rest)
    | '[' :: rest =>
      match skipSpace rest with
      | ']' :: rest => some (.arr [], rest)
      | _ => (items? fuel rest).map fun (items, rest) => (.arr items, rest)
    | '\x7b' :: rest =>
      match skipSpace rest with
      | '\x7d' :: rest => some (.obj [], rest)
      | _ => (entries? fuel rest).map fun (entries, rest) => (record entries, rest)
    | rest => number? rest

/-- Reads one or more items and the closing bracket. -/
def items? : Nat → List Char → Option (List Json × List Char)
  | 0, _ => none
  | fuel + 1, chars =>
    match value? fuel chars with
    | none => none
    | some (item, rest) =>
      match skipSpace rest with
      | ']' :: rest => some ([item], rest)
      | ',' :: rest => (items? fuel rest).map fun (items, rest) => (item :: items, rest)
      | _ => none

/-- Reads one or more entries and the closing brace. -/
def entries? : Nat → List Char → Option (List (String × Json) × List Char)
  | 0, _ => none
  | fuel + 1, chars =>
    match skipSpace chars with
    | '"' :: rest =>
      match stringRest? (rest.length + 1) [] rest with
      | none => none
      | some (key, rest) =>
        match skipSpace rest with
        | ':' :: rest =>
          match value? fuel rest with
          | none => none
          | some (value, rest) =>
            match skipSpace rest with
            | '\x7d' :: rest => some ([(key, value)], rest)
            | ',' :: rest =>
              (entries? fuel rest).map fun (entries, rest) => ((key, value) :: entries, rest)
            | _ => none
        | _ => none
    | _ => none

end

/-- Reads a value that takes up the whole text, space around it aside. -/
def ofText? (text : String) : Option Json :=
  let chars := text.toList
  match value? (2 * chars.length + 2) chars with
  | some (value, rest) => if (skipSpace rest).isEmpty then some value else none
  | none => none

/-- What a value becomes when it is passed on as text: its floating-point numbers are read anew. -/
def reread (value : Json) : Json := (ofText? value.text).getD value

end Fieldwatch.Json
