import RoutePattern.Decimal.Numeral

/-!
# Binary floating-point numbers of double precision

A finite number is a sign and `mantissa · 2 ^ exponent`, with a mantissa of 53 bits or the least
exponent. Decimal fractions are rounded to the nearest such number, ties to the even mantissa,
by exact arithmetic on natural numbers.
-/
namespace RoutePattern.Decimal

/-- A floating-point number of double precision. -/
inductive Binary where
  | nan
  | infinite (negative : Bool)
  | finite (negative : Bool) (mantissa : Nat) (exponent : Int)
  deriving Repr, DecidableEq

namespace Binary

/-- The least exponent of a mantissa. -/
def leastExponent : Int := -1074

/-- The greatest exponent of a mantissa. -/
def greatestExponent : Int := 971

/-- The count of bits of a mantissa. -/
def precision : Nat := 53

/-- A quotient rounded to the nearest natural number, ties to the even one. -/
def roundQuotient (numerator denominator : Nat) : Nat :=
  let quotient := numerator / denominator
  let twice := 2 * (numerator % denominator)
  if twice < denominator || (twice == denominator && quotient % 2 == 0) then quotient
  else quotient + 1

/-- A fraction `numerator / denominator` divided by a power of two, as numerator and
denominator. -/
def shifted (numerator denominator : Nat) (exponent : Int) : Nat × Nat :=
  if 0 ≤ exponent then (numerator, denominator * Nat.pow 2 exponent.toNat)
  else (numerator * Nat.pow 2 (-exponent).toNat, denominator)

/-- The exponent that gives a positive fraction a mantissa of 53 bits, unless it is below the
least one. -/
def exponentOf (numerator denominator : Nat) : Int :=
  let guess : Int := (numerator.log2 : Int) - denominator.log2 - 52
  let (top, bottom) := shifted numerator denominator guess
  let exponent := if top / bottom < Nat.pow 2 52 then guess - 1 else guess
  max exponent leastExponent

/-- The number nearest to a fraction. -/
def ofQuotient (negative : Bool) (numerator denominator : Nat) : Binary :=
  if numerator = 0 then .finite negative 0 leastExponent
  else
    let exponent := exponentOf numerator denominator
    let (top, bottom) := shifted numerator denominator exponent
    let mantissa := roundQuotient top bottom
    let (mantissa, exponent) :=
      if mantissa = Nat.pow 2 precision then (Nat.pow 2 (precision - 1), exponent + 1)
      else (mantissa, exponent)
    if greatestExponent < exponent then .infinite negative
    else .finite negative mantissa exponent

/-- The number nearest to a decimal fraction. A fraction far beyond the greatest number is infinite,
and one far below the least is zero, whatever its digits. -/
def ofFraction : Fraction → Binary
  | .nan => .nan
  | .infinite negative => .infinite negative
  | .finite negative digits exponent =>
    let count : Int := (Text.ofNat digits).length
    if digits = 0 || exponent + count < -400 then .finite negative 0 leastExponent
    else if 400 < exponent + count then .infinite negative
    else if 0 ≤ exponent then ofQuotient negative (digits * Nat.pow 10 exponent.toNat) 1
    else ofQuotient negative digits (Nat.pow 10 (-exponent).toNat)

/-- The number is neither infinite nor undefined, and is zero. -/
def isZero : Binary → Bool
  | finite _ mantissa _ => mantissa == 0
  | _ => false

/-- Two numbers are equal: an undefined number equals none, and both zeros are equal. -/
def equals : Binary → Binary → Bool
  | nan, _ => false
  | _, nan => false
  | number, other => number == other || (number.isZero && other.isZero)

/-- The number is a given integer. -/
def equalsInt : Binary → Int → Bool
  | finite negative mantissa exponent, number =>
    let signed : Int := if negative then -mantissa else mantissa
    if 0 ≤ exponent then signed * Nat.pow 2 exponent.toNat == number
    else signed == number * Nat.pow 2 (-exponent).toNat
  | _, _ => false

end Binary

end RoutePattern.Decimal
