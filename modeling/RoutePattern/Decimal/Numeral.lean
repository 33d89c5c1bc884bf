import RoutePattern.Text.Basic
import RoutePattern.Unicode.Digit

/-!
# Reading numerals

A numeral may be written in the digits of any script, with blanks around it, a sign in front, and
single low lines between digits. Integers of more than 4300 digits are not read. A decimal
fraction is read into its exact parts (`Fraction`); turning it into a number is left to others.
-/
namespace RoutePattern.Decimal

/-- A character of a numeral in ASCII: blanks become spaces and digits those of ASCII. None stands
for a character that no numeral holds. -/
def toAscii? (c : Char) : Option Char :=
  let code := c.toNat
  if code < 128 then some c
  else if Unicode.isBlank code then some ' '
  else (Unicode.digitValue? code).map fun value => Char.ofNat (48 + value)

/-- A numeral in ASCII, up to the first character that no numeral holds, which becomes a question
mark. -/
def normalize : Text → Text
  | [] => []
  | c :: rest =>
    match toAscii? c with
    | some ascii => ascii :: normalize rest
    | none => ['?']

/-- The character is a blank of ASCII. -/
def isSpace (c : Char) : Bool := Unicode.isAsciiBlank c.toNat

/-- The number that a row of ASCII digits stands for. -/
def digitsToNat (digits : Text) : Nat :=
  digits.foldl (fun number c => number * 10 + (c.toNat - 48)) 0

/-- The sign in front of a numeral (true for minus), and the rest. -/
def readSign : Text → Bool × Text
  | '-' :: rest => (true, rest)
  | '+' :: rest => (false, rest)
  | text => (false, text)

/-- No low line stands first, last, or next to another one. -/
def lowLinesSeparate (afterDigit : Bool) : Text → Bool
  | [] => true
  | ['_'] => false
  | '_' :: rest => afterDigit && lowLinesSeparate false rest
  | _ :: rest => lowLinesSeparate true rest

/-- Why an integer is not read. -/
inductive NumeralError where
  /-- The text is no integer. -/
  | malformed
  /-- The integer has too many digits. -/
  | tooManyDigits (count : Nat)
  deriving Repr, DecidableEq

/-- The greatest count of digits of an integer that is read or written. -/
def digitLimit : Nat := 4300

/-- The integer that a text stands for. -/
def readInt (text : Text) : Except NumeralError Int :=
  let (negative, body) := readSign ((normalize text).dropWhile isSpace)
  let (run, rest) := body.span fun c => c.isDigit || c == '_'
  let digits := run.filter (· != '_')
  if digits.isEmpty || !lowLinesSeparate false run then .error .malformed
  else if digitLimit < digits.length then .error (.tooManyDigits digits.length)
  else if rest.any fun c => !isSpace c then .error .malformed
  else
    let size : Int := digitsToNat digits
    .ok (if negative then -size else size)

/-- A decimal fraction as it is written: `digits · 10 ^ exponent`, or one of the values that are
no numbers. -/
inductive Fraction where
  | nan
  | infinite (negative : Bool)
  | finite (negative : Bool) (digits : Nat) (exponent : Int)
  deriving Repr, DecidableEq

/-- A word, whatever the case of its letters. -/
def spells (word : String) (text : Text) : Bool := text.map Char.toLower == word.toList

/-- The exponent after the letter `e`. None stands for a malformed one. -/
def readExponent : Text → Option Int
  | [] => some 0
  | e :: rest =>
    if e != 'e' && e != 'E' then none
    else
      let (negative, digits) := readSign rest
      if digits.isEmpty || digits.any fun c => !c.isDigit then none
      else
        let size : Int := digitsToNat digits
        some (if negative then -size else size)

/-- A decimal fraction without its sign. -/
def readUnsigned (negative : Bool) (text : Text) : Option Fraction :=
  if spells "inf" text || spells "infinity" text then some (.infinite negative)
  else if spells "nan" text then some .nan
  else
    let (whole, rest) := text.span Char.isDigit
    let (part, rest) :=
      match rest with
      | '.' :: rest => rest.span Char.isDigit
      | rest => ([], rest)
    if whole.isEmpty && part.isEmpty then none
    else (readExponent rest).map fun exponent =>
      .finite negative (digitsToNat (whole ++ part)) (exponent - part.length)

/-- Low lines stand between digits only. -/
def lowLinesBetweenDigits (before : Option Char) : Text → Bool
  | [] => before != some '_'
  | c :: rest =>
    (if c == '_' then before.any Char.isDigit else before != some '_' || c.isDigit) &&
      lowLinesBetweenDigits (some c) rest

/-- The decimal fraction that a text stands for. -/
def readFraction (text : Text) : Option Fraction :=
  let numeral := normalize text
  if numeral.contains '_' && !lowLinesBetweenDigits none numeral then none
  else
    let (negative, unsigned) := readSign (Text.trim isSpace (numeral.filter (· != '_')))
    readUnsigned negative unsigned

end RoutePattern.Decimal
