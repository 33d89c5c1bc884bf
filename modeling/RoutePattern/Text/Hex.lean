import RoutePattern.Text.Basic

/-!
# Hexadecimal digits
-/
namespace RoutePattern.Text

/-- The value of a hexadecimal digit of either case. -/
def hexValue? (c : Char) : Option Nat :=
  let code := c.toNat
  if 48 ≤ code ∧ code ≤ 57 then some (code - 48)
  else if 65 ≤ code ∧ code ≤ 70 then some (code - 55)
  else if 97 ≤ code ∧ code ≤ 102 then some (code - 87)
  else none

/-- A hexadecimal digit of either case. -/
def isHex (c : Char) : Bool := (hexValue? c).isSome

/-- The number that a row of hexadecimal digits stands for; other characters count as zero. -/
def hexNumber (digits : Text) : Nat :=
  digits.foldl (fun number c => number * 16 + (hexValue? c).getD 0) 0

/-- The hexadecimal digit of a value below sixteen, with letters of lower case. -/
def hexDigit (value : Nat) : Char :=
  Char.ofNat (if value < 10 then 48 + value else 87 + value)

/-- The hexadecimal digit of a value below sixteen, with letters of upper case. -/
def upperHexDigit (value : Nat) : Char :=
  Char.ofNat (if value < 10 then 48 + value else 55 + value)

/-- A number in the given count of hexadecimal digits, from the left. -/
def hexDigits : (width : Nat) → (number : Nat) → Text
  | 0, _ => []
  | width + 1, number => hexDigit (number / Nat.pow 16 width % 16) :: hexDigits width number

/-- A digit of upper case has the value it was made of. -/
theorem hexValue?_upperHexDigit : ∀ value < 16, hexValue? (upperHexDigit value) = some value := by
  decide

end RoutePattern.Text
