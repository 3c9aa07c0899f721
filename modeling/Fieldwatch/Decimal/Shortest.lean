import Fieldwatch.Decimal.Double

/-!
# Shortest decimal digits

The fewest decimal digits that read back as the same double. A finite number `m * 2 ^ q` owns the
interval of reals that round to it, its ends included exactly when `m` is even. The grids of one,
two, up to seventeen digits are tried in turn; of two grid points inside the interval the nearer
one is taken, and an exact tie is decided by the caller.
-/
namespace Fieldwatch.Decimal

/-- A decimal value `digits * 10 ^ exponent`. -/
structure Digits where
  digits : Nat
  exponent : Int
  deriving DecidableEq, Repr

/-- Which of two equally near decimals is taken. -/
inductive Tie
  | up
  | toEven
  deriving DecidableEq, Repr

/-- The reals that round to a double: the numbers between two ends, over a common denominator. -/
structure Interval where
  low : Nat
  value : Nat
  high : Nat
  den : Nat
  closed : Bool

/-- The interval of a finite nonzero double. The lower half is narrower above a power of two. -/
def Interval.of (x : Double) : Interval :=
  let m := x.significand
  let low := if x.fractionField = 0 && 1 < x.exponentField then 4 * m - 1 else 4 * m - 2
  let q := x.scale - 2
  let up := Nat.pow 2 q.toNat
  { low := low * up
    value := 4 * m * up
    high := (4 * m + 2) * up
    den := Nat.pow 2 (-q).toNat
    closed := m % 2 = 0 }

/-- Whether `digits * 10 ^ exponent` lies in the interval. -/
def Interval.holds (range : Interval) (digits : Nat) (exponent : Int) : Bool :=
  let point := digits * Nat.pow 10 exponent.toNat * range.den
  let unit := Nat.pow 10 (-exponent).toNat
  if range.closed then range.low * unit ≤ point && point ≤ range.high * unit
  else range.low * unit < point && point < range.high * unit

/-- How many decimal places the value has before its point; zero or less below a tenth. -/
def Interval.places (range : Interval) : Int :=
  let guess : Int := (Double.digitCount range.value : Int) - Double.digitCount range.den
  if range.den * Nat.pow 10 guess.toNat ≤ range.value * Nat.pow 10 (-guess).toNat then guess + 1
  else guess

/-- The grid point of a given spacing nearest to the value among those inside the interval. -/
def Interval.onGrid? (range : Interval) (tie : Tie) (exponent : Int) : Option Digits :=
  let num := range.value * Nat.pow 10 (-exponent).toNat
  let den := range.den * Nat.pow 10 exponent.toNat
  let below := num / den
  let twice := 2 * (num % den)
  match range.holds below exponent, range.holds (below + 1) exponent with
  | true, true =>
    if twice < den then some ⟨below, exponent⟩
    else if den < twice then some ⟨below + 1, exponent⟩
    else match tie with
      | .up => some ⟨below + 1, exponent⟩
      | .toEven => some ⟨if below % 2 = 0 then below else below + 1, exponent⟩
  | true, false => some ⟨below, exponent⟩
  | false, true => some ⟨below + 1, exponent⟩
  | false, false => none

/-- The digits without trailing zeros; `fuel` bounds how many may go. -/
def Digits.strip : Nat → Digits → Digits
  | 0, d => d
  | fuel + 1, d =>
    if d.digits ≠ 0 && d.digits % 10 = 0 then strip fuel ⟨d.digits / 10, d.exponent + 1⟩ else d

/-- The fewest digits that read back as a finite double; zero is a single zero. -/
def shortest (tie : Tie) (x : Double) : Digits :=
  if x.magnitude = 0 then ⟨0, 0⟩
  else
    let range := Interval.of x
    let places := range.places
    let found := (List.range 17).findSome? fun count =>
    range.onGrid? tie (places - (count + 1 : Nat))
    (found.getD ⟨range.value, 0⟩).strip 17

end Fieldwatch.Decimal
