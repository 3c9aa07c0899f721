import Fieldwatch.Text.Blank
import Fieldwatch.Time.Instant

/-!
# Reading instants

The RFC 3339 date and time form with any offset. The year may carry a sign and then any number of
digits, the date and the time may be joined by `T`, `t` or a space, blanks may stand before a
number or a mark, and a fraction has at least one digit, of which nine count. Any minute may have
a sixtieth second, a leap second.
-/
namespace Fieldwatch.Time

/-- The number that decimal digits spell. -/
def digitsValue (chars : List Char) : Nat :=
  chars.foldl (fun value c => value * 10 + (c.toNat - 48)) 0

def leadingDigits (chars : List Char) : List Char :=
  chars.takeWhile Char.isDigit

/-- Reads a number of at most `most` digits, blanks before it skipped. -/
def number? (most : Nat) (chars : List Char) : Option (Nat × List Char) :=
  let rest := Text.trimFront chars
  match leadingDigits (rest.take most) with
  | [] => none
  | digits => some (digitsValue digits, rest.drop digits.length)

/-- Reads a mark, blanks before it skipped. -/
def mark? (mark : Char) (chars : List Char) : Option (List Char) :=
  match Text.trimFront chars with
  | c :: rest => if c = mark then some rest else none
  | [] => none

/-- Reads a year: with a sign any number of digits, without one at most four. -/
def year? (chars : List Char) : Option (Int × List Char) :=
  let signed (negative : Bool) (rest : List Char) : Option (Int × List Char) :=
    match leadingDigits rest with
    | [] => none
    | digits =>
      let value : Int := digitsValue digits
      some (if negative then -value else value, rest.drop digits.length)
  match Text.trimFront chars with
  | '-' :: rest => signed true rest
  | '+' :: rest => signed false rest
  | rest => (number? 4 rest).map fun (value, rest) => ((value : Int), rest)

/-- Reads a date; whether it exists is not looked at. -/
def date? (chars : List Char) : Option (Date × List Char) := do
  let (year, rest) ← year? chars
  let rest ← mark? '-' rest
  let (month, rest) ← number? 2 rest
  let rest ← mark? '-' rest
  let (day, rest) ← number? 2 rest
  return (⟨year, month, day⟩, rest)

/-- Reads the fraction of a second in nanoseconds; digits after the ninth are skipped. -/
def fraction? (chars : List Char) : Option (Nat × List Char) :=
  match chars with
  | '.' :: rest =>
    match leadingDigits rest with
    | [] => none
    | digits =>
      let counted := digits.take 9
      some (digitsValue counted * Nat.pow 10 (9 - counted.length), rest.drop digits.length)
  | _ => some (0, chars)

/-- Reads a time of day as a second since midnight and nanoseconds after its start; a leap second
belongs to the second before it. -/
def timeOfDay? (chars : List Char) : Option ((Nat × Nat) × List Char) := do
  let (hour, rest) ← number? 2 chars
  let rest ← mark? ':' rest
  let (minute, rest) ← number? 2 rest
  let rest ← mark? ':' rest
  let (second, rest) ← number? 2 rest
  let (nanos, rest) ← fraction? rest
  if hour ≤ 23 && minute ≤ 59 && second ≤ 60 then
    let ofDay := (hour * 60 + minute) * 60 + min second 59
    return ((ofDay, (second - 59) * 1000000000 + nanos), rest)
  else none

def pair? (chars : List Char) : Option (Nat × List Char) :=
  match chars with
  | a :: b :: rest =>
    if a.isDigit && b.isDigit then some (digitsValue [a, b], rest) else none
  | _ => none

/-- Reads an offset of hours and minutes in seconds. -/
def clockOffset? (chars : List Char) : Option (Int × List Char) := do
  let (negative, rest) ← match chars with
    | '+' :: rest => some (false, rest)
    | '-' :: rest | '\u2212' :: rest => some (true, rest)
    | _ => none
  let (hours, rest) ← pair? rest
  let (minutes, rest) ← pair? (rest.dropWhile fun c => c = ':' || Text.isBlank c)
  if hours ≤ 23 && minutes ≤ 59 then
    let seconds : Int := hours * 3600 + minutes * 60
    return (if negative then -seconds else seconds, rest)
  else none

/-- Reads an offset from UTC in seconds: `Z`, `UTC` in any case, or hours and minutes. -/
def offset? (chars : List Char) : Option (Int × List Char) :=
  match chars with
  | 'Z' :: rest | 'z' :: rest => some (0, rest)
  | _ =>
    if (chars.take 3).map Char.toUpper = ['U', 'T', 'C'] then some (0, chars.drop 3)
    else clockOffset? chars

/-- Reads an instant that takes up the whole text, blanks at its end aside. -/
def instant? (text : String) : Option Instant := do
  let (date, rest) ← date? text.toList
  let rest ← match rest with
    | 'T' :: rest | 't' :: rest | ' ' :: rest => some rest
    | _ => none
  let ((ofDay, fraction), rest) ← timeOfDay? rest
  let (offset, rest) ← offset? (Text.trimFront rest)
  if date.exists && -262143 ≤ date.year && date.year ≤ 262142 && (Text.trimFront rest).isEmpty then
    Instant.ofParts? (date.toDays * 86400 + ofDay - offset) fraction
  else none

end Fieldwatch.Time
