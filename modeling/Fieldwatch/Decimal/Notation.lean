import Fieldwatch.Decimal.Shortest

/-!
# Written decimals

The two ways a double is written: in full, without an exponent and without a needless point, as
messages and answers show it; and with a point always and an exponent outside a fixed range, as
JSON text shows it.
-/
namespace Fieldwatch.Decimal

/-- The decimal digits of a whole number. -/
def digitText (number : Nat) : String :=
  String.ofList (Nat.toDigits 10 number)

def zeros (count : Nat) : String :=
  String.ofList (List.replicate count '0')

/-- Digits with a point after the first `places` of them, `0 < places`. -/
def withPoint (chars : List Char) (places : Nat) : String :=
  String.ofList (chars.take places ++ '.' :: chars.drop places)

/-- The digits in full, without an exponent. -/
def plainDigits (d : Digits) : String :=
  let chars := Nat.toDigits 10 d.digits
  if 0 ≤ d.exponent then String.ofList chars ++ zeros d.exponent.toNat
  else
    let fraction := (-d.exponent).toNat
    if fraction < chars.length then withPoint chars (chars.length - fraction)
    else "0." ++ zeros (fraction - chars.length) ++ String.ofList chars

/-- The digits with a point always, and with an exponent when the value is below a hundred
thousandth or has more than sixteen places. -/
def pointedDigits (d : Digits) : String :=
  let chars := Nat.toDigits 10 d.digits
  let places := d.exponent + chars.length
  if d.digits = 0 then "0.0"
  else if 0 ≤ d.exponent && places ≤ 16 then
    String.ofList chars ++ zeros d.exponent.toNat ++ ".0"
  else if 0 < places && places ≤ 16 then withPoint chars places.toNat
  else if -5 < places && places ≤ 0 then "0." ++ zeros (-places).toNat ++ String.ofList chars
  else
    let mantissa := if chars.length ≤ 1 then String.ofList chars else withPoint chars 1
    mantissa ++ "e" ++ toString (places - 1)

/-- A sign in front of the digits of a negative number, and names for what is not finite. -/
def signed (tie : Tie) (write : Digits → String) (x : Double) : String :=
  if x.isNaN then "NaN"
  else
    let body := if x.isFinite then write (shortest tie x) else "inf"
    if x.isNegative then "-" ++ body else body

/-- A double in full: `40`, `-3.5`, `-0`, `0.00001`. A tie goes up. -/
def plain (x : Double) : String :=
  signed .up plainDigits x

/-- A double with a point: `40.0`, `-3.5`, `1e-7`. A tie goes to the even digit. -/
def pointed (x : Double) : String :=
  signed .toEven pointedDigits x

end Fieldwatch.Decimal
