import RoutePattern.Decimal.Binary

/-!
# The shortest decimal that reads back

The text of a floating-point number has the fewest digits that are read back as the number, and
among those the nearest ones. For a growing count of digits the two neighbours of the number on
the decimal grid are tried, in exact arithmetic.
-/
namespace RoutePattern.Decimal

/-- How numbers are laid out: the powers of ten whose numbers are written positionally. -/
structure Layout where
  /-- Numbers from this power of ten on have an exponent. -/
  scientificFrom : Int
  /-- Numbers below this power of ten have an exponent. -/
  scientificBelow : Int
  /-- The least count of digits of an exponent. -/
  exponentDigits : Nat

/-- Numbers from `10 ^ 16` on or below `10 ^ -4` have an exponent, of two digits at least. -/
def layout : Layout := ⟨16, -4, 2⟩

namespace Binary

/-- A positive number with the two ends of the interval of reals that are rounded to it, as
numerators over one denominator. -/
structure Interval where
  low : Nat
  value : Nat
  high : Nat
  denominator : Nat
  /-- The ends themselves are rounded to the number. -/
  closed : Bool

/-- The interval of a mantissa and exponent. -/
def interval (mantissa : Nat) (exponent : Int) : Interval :=
  let gap := if mantissa = Nat.pow 2 (precision - 1) && leastExponent < exponent then 1 else 2
  let scale := Nat.pow 2 (exponent - 2).toNat
  { low := (4 * mantissa - gap) * scale
    value := 4 * mantissa * scale
    high := (4 * mantissa + 2) * scale
    denominator := Nat.pow 2 (2 - exponent).toNat
    closed := mantissa % 2 == 0 }

/-- The power of ten of the first digit of a positive fraction. -/
def decimalExponent (numerator denominator : Nat) : Int :=
  if denominator ≤ numerator then (Text.ofNat (numerator / denominator)).length - 1
  else
    let count := (Text.ofNat (denominator / numerator)).length
    if denominator = numerator * Nat.pow 10 (count - 1) then 1 - count else -count

/-- The decimal with the given power of ten as its last place that lies in an interval and is
nearest to its number; of two that are equally near, the one with the even last digit. -/
def onGrid? (around : Interval) (place : Int) : Option Nat :=
  let scale := Nat.pow 10 (-place).toNat
  let unit := around.denominator * Nat.pow 10 place.toNat
  let inside (digits : Nat) : Bool :=
    let point := digits * unit
    if around.closed then around.low * scale ≤ point && point ≤ around.high * scale
    else around.low * scale < point && point < around.high * scale
  let below := around.value * scale / unit
  let remainder := around.value * scale % unit
  let prefersBelow := 2 * remainder < unit || (2 * remainder == unit && below % 2 == 0)
  if inside below && (prefersBelow || !inside (below + 1)) then some below
  else if inside (below + 1) then some (below + 1)
  else none

/-- The first grid with a hit, from the given count of digits on; `fuel` more counts are tried. -/
def searchGrid (around : Interval) (first : Int) : (fuel count : Nat) → Nat × Int
  | 0, count =>
    let place := first - count + 1
    let unit := around.denominator * Nat.pow 10 place.toNat
    (around.value * Nat.pow 10 (-place).toNat / unit, place)
  | fuel + 1, count =>
    let place := first - count + 1
    match onGrid? around place with
    | some digits => (digits, place)
    | none => searchGrid around first fuel (count + 1)

/-- The fewest digits of a positive number, and the power of ten of the last of them. -/
def shortest (mantissa : Nat) (exponent : Int) : Nat × Int :=
  let around := interval mantissa exponent
  searchGrid around (decimalExponent around.value around.denominator) 17 1

/-- The exponent of a number with its sign. -/
def exponentText (exponent : Int) : Text :=
  let digits := Text.ofNat exponent.natAbs
  'e' :: (if exponent < 0 then '-' else '+') ::
    List.replicate (layout.exponentDigits - digits.length) '0' ++ digits

/-- Digits laid out around the point, which stands after `point` of them. -/
def layOut (digits : Text) (point : Int) : Text :=
  if layout.scientificFrom < point || point ≤ layout.scientificBelow then
    let body := match digits with
      | [] => []
      | [digit] => [digit]
      | first :: rest => first :: '.' :: rest
    body ++ exponentText (point - 1)
  else if point ≤ 0 then '0' :: '.' :: List.replicate (-point).toNat '0' ++ digits
  else if digits.length ≤ point.toNat then
    digits ++ List.replicate (point.toNat - digits.length) '0' ++ ['.', '0']
  else digits.take point.toNat ++ '.' :: digits.drop point.toNat

/-- A row of digits without the zeros at its end. -/
def withoutTrailingZeros (digits : Text) : Text := (digits.reverse.dropWhile (· == '0')).reverse

/-- The text of a number. -/
def text : Binary → Text
  | nan => "nan".toList
  | infinite negative => if negative then "-inf".toList else "inf".toList
  | finite negative mantissa exponent =>
    let sign := if negative then ['-'] else []
    if mantissa = 0 then sign ++ ['0', '.', '0']
    else
      let (digits, place) := shortest mantissa exponent
      let digits := Text.ofNat digits
      sign ++ layOut (withoutTrailingZeros digits) (digits.length + place)

end Binary

end RoutePattern.Decimal
