/-!
# Double precision numbers

A measured value is a 64-bit binary floating-point number, held as its bits. The order of two
numbers is the order of their ranks, whole numbers read off the bits; a number that is not a
number has no place in the order. Quotients and products become the nearest double, a half going
to the even neighbour.
-/
namespace Fieldwatch

/-- A 64-bit binary floating-point number, by its bits. -/
structure Double where
  bits : UInt64
  deriving DecidableEq, Repr

namespace Double

def isNegative (x : Double) : Bool :=
  Nat.pow 2 63 ≤ x.bits.toNat

/-- The bits below the sign, as a number. -/
def magnitude (x : Double) : Nat :=
  x.bits.toNat % Nat.pow 2 63

/-- The eleven bits of the exponent. -/
def exponentField (x : Double) : Nat :=
  x.magnitude / Nat.pow 2 52

/-- The fifty-two bits of the fraction. -/
def fractionField (x : Double) : Nat :=
  x.magnitude % Nat.pow 2 52

/-- Whether the bits stand for no number at all. -/
def isNaN (x : Double) : Bool :=
  2047 * Nat.pow 2 52 < x.magnitude

/-- Whether the bits stand for a number that is not infinite. -/
def isFinite (x : Double) : Bool :=
  x.magnitude < 2047 * Nat.pow 2 52

/-- The place of a number in the order: both zeros have rank zero. -/
def rank (x : Double) : Int :=
  if x.isNegative then -(x.magnitude : Int) else x.magnitude

/-- Strictly below; nothing is below or above what is not a number. -/
def lt (x y : Double) : Bool :=
  !x.isNaN && !y.isNaN && decide (x.rank < y.rank)

/-- The whole number `m` of the form `m * 2 ^ q` of a finite number. -/
def significand (x : Double) : Nat :=
  if x.exponentField = 0 then x.fractionField else Nat.pow 2 52 + x.fractionField

/-- The power `q` of the form `m * 2 ^ q` of a finite number. -/
def scale (x : Double) : Int :=
  (max x.exponentField 1 : Nat) - 1075

/-- The double with a given sign and magnitude. -/
def ofSign (negative : Bool) (magnitude : Nat) : Double :=
  ⟨UInt64.ofNat (if negative then Nat.pow 2 63 + magnitude else magnitude)⟩

def zero : Double := ofSign false 0

/-- The magnitude shared by the infinities. -/
def infiniteMagnitude : Nat := 2047 * Nat.pow 2 52

def infinity : Double := ofSign false infiniteMagnitude

def negInfinity : Double := ofSign true infiniteMagnitude

/-- The usual bits for what is not a number. -/
def nan : Double := ofSign false (infiniteMagnitude + Nat.pow 2 51)

/-- The quotient rounded to a whole number, a half going to the even neighbour. -/
def divNearest (num den : Nat) : Nat :=
  let quotient := num / den
  let twice := 2 * (num % den)
  if twice < den then quotient
  else if den < twice then quotient + 1
  else if quotient % 2 = 0 then quotient else quotient + 1

/-- The power of two at which a positive quotient is rounded. -/
def roundingScale (num den : Nat) : Int :=
  let guess : Int := (num.log2 : Int) - den.log2
  let reached : Bool :=
    if 0 ≤ guess then den * Nat.pow 2 guess.toNat ≤ num else den ≤ num * Nat.pow 2 (-guess).toNat
  max ((if reached then guess else guess - 1) - 52) (-1074)

/-- The magnitude of the double nearest to a quotient, which may be the infinite one. -/
def nearestMagnitude (num den : Nat) : Nat :=
  if num = 0 then 0
  else
    let q := roundingScale num den
    let m :=
      if 0 ≤ q then divNearest num (den * Nat.pow 2 q.toNat)
      else divNearest (num * Nat.pow 2 (-q).toNat) den
    min ((q + 1074).toNat * Nat.pow 2 52 + m) infiniteMagnitude

/-- The double nearest to the quotient of two whole numbers. -/
def ofRatio (negative : Bool) (num den : Nat) : Double :=
  ofSign negative (nearestMagnitude num den)

/-- The double nearest to a whole number. -/
def ofInt (number : Int) : Double :=
  ofRatio (number < 0) number.natAbs 1

/-- The number of decimal digits of a whole number. -/
def digitCount (number : Nat) : Nat :=
  (Nat.toDigits 10 number).length

/-- The double nearest to `num / den * 2 ^ power`. -/
def ofScaled (negative : Bool) (num den : Nat) (power : Int) : Double :=
  ofRatio negative (num * Nat.pow 2 power.toNat) (den * Nat.pow 2 (-power).toNat)

/-- The double nearest to the product of two finite numbers. -/
def mul (x y : Double) : Double :=
  ofScaled (x.isNegative != y.isNegative) (x.significand * y.significand) 1 (x.scale + y.scale)

/-- The double nearest to the quotient of two finite numbers, the second of them not zero. -/
def div (x y : Double) : Double :=
  ofScaled (x.isNegative != y.isNegative) x.significand y.significand (x.scale - y.scale)

end Double
end Fieldwatch
