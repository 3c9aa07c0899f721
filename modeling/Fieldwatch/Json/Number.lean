import Fieldwatch.Json.Basic
import Fieldwatch.Time.Rfc3339

/-!
# JSON numbers

Reading a number. Without fraction and exponent, and within 64 bits, it is a whole number. Every
other number becomes a double by a rule that is fast and not always exact: the leading digits that
fit into 64 bits are rounded to a double, and this is multiplied or divided by a power of ten and
rounded again. The outcome may miss the nearest double by its last place. A number too large for a
double is refused.
-/
namespace Fieldwatch.Json

/-! ## Parts -/

/-- The whole number of at most 64 bits that a value and the digits after it spell, and the digits
from the first one that does not fit. -/
def absorb (value : Nat) : List Char → Nat × List Char
  | [] => (value, [])
  | c :: rest =>
    let longer := value * 10 + (c.toNat - 48)
    if longer < UInt64.size then absorb longer rest else (value, c :: rest)

/-- Reads the exponent of a number, if there is one. -/
def exponent? (chars : List Char) : Option (Option Int × List Char) :=
  let digits (negative : Bool) (rest : List Char) : Option (Option Int × List Char) :=
    match Time.leadingDigits rest with
    | [] => none
    | found =>
      let value : Int := Time.digitsValue found
      some (some (if negative then -value else value), rest.drop found.length)
  match chars with
  | 'e' :: '-' :: rest | 'E' :: '-' :: rest => digits true rest
  | 'e' :: '+' :: rest | 'E' :: '+' :: rest => digits false rest
  | 'e' :: rest | 'E' :: rest => digits false rest
  | _ => some (none, chars)

/-! ## Scaling -/

/-- The double nearest to a power of ten. -/
def tenTo (power : Nat) : Double := Double.ofRatio false (Nat.pow 10 power) 1

/-- The largest power of ten that is a finite double. -/
def largestPower : Nat := 308

/-- Divides by the largest power of ten a number of times, until nothing is left. -/
def shrink : Nat → Double → Double
  | 0, value => value
  | steps + 1, value =>
    if value.magnitude = 0 then value else shrink steps (value.div (tenTo largestPower))

/-- Multiplies by a power of ten, negative or not; none if the product is too large. A power beyond
the largest one is divided by in steps. -/
def scaled? (value : Double) (exponent : Int) : Option Double :=
  if largestPower < exponent then
    if value.magnitude = 0 then some value else none
  else if 0 ≤ exponent then
    let product := value.mul (tenTo exponent.toNat)
    if product.isFinite then some product else none
  else
    let power := (-exponent).toNat
    let steps := (power - 1) / largestPower
    some ((shrink steps value).div (tenTo (power - steps * largestPower)))

/-! ## Numbers -/

/-- A number with fraction or exponent, or with more digits than 64 bits hold. Digits that do not
fit are counted where they stand before the point, and dropped after it. -/
def approximate? (negative : Bool) (whole fraction : List Char) (exponent : Int) : Option Json :=
  let (value, uncounted) := absorb 0 whole
  let (value, dropped) := absorb value fraction
  let places : Int := uncounted.length - (fraction.length - dropped.length : Nat)
  (scaled? (Double.ofRatio false value 1) (places + exponent)).map fun size =>
    .float (Double.ofSign negative size.magnitude)

/-- A number without fraction and exponent. A negative zero is no whole number. -/
def wholeNumber? (negative : Bool) (digits : List Char) : Option Json :=
  let value := Time.digitsValue digits
  if negative then
    if 0 < value && value ≤ 9223372036854775808 then some (.int (-value))
    else approximate? true digits [] 0
  else if value < UInt64.size then some (.int value)
  else approximate? false digits [] 0

/-- Reads the digits of a number after its sign. -/
def unsigned? (negative : Bool) (chars : List Char) : Option (Json × List Char) :=
  let whole := Time.leadingDigits chars
  let rest := chars.drop whole.length
  if whole.isEmpty || (whole.length > 1 && whole.head? = some '0') then none
  else
    let fraction := match rest with
      | '.' :: rest => Time.leadingDigits rest
      | _ => []
    let pointed := rest.head? = some '.'
    if pointed && fraction.isEmpty then none
    else
      match exponent? (if pointed then rest.drop (fraction.length + 1) else rest) with
      | none => none
      | some (none, rest) =>
        (if pointed then approximate? negative whole fraction 0
          else wholeNumber? negative whole).map (·, rest)
      | some (some exponent, rest) => (approximate? negative whole fraction exponent).map (·, rest)

def number? (chars : List Char) : Option (Json × List Char) :=
  match chars with
  | '-' :: rest => unsigned? true rest
  | _ => unsigned? false chars

end Fieldwatch.Json
