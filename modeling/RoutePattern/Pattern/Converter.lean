import RoutePattern.Datum.Basic
import RoutePattern.Datum.Printer
import RoutePattern.Pattern.Error
import RoutePattern.Table
import RoutePattern.Text.Case

/-!
# Converters

A converter names a regular expression for a parameter and the kind of value that a captured text
is turned into. Callers may add converters and replace the built-in ones.
-/
namespace RoutePattern

/-- The kind of value that a text is turned into. -/
inductive Conversion where
  | text
  | integer
  | float
  /-- The text in upper case. -/
  | upper
  deriving Repr, DecidableEq

/-- Why a captured text is not converted. -/
inductive ConversionError where
  | unknownConverter (name : Text)
  | notAnInteger (value : Text)
  | tooManyDigits (count : Nat)
  | notAFloat (value : Text)
  deriving Repr, DecidableEq

namespace ConversionError

/-- The greatest count of characters of a value shown for want of an integer. -/
def shownLimit : Nat := 200

/-- The wording of an error. -/
def message : ConversionError → Text
  | unknownConverter name => Text.quoted name
  | notAnInteger value =>
    "invalid literal for int() with base 10: ".toList ++ (Text.quoted value).take shownLimit
  | tooManyDigits count => tooManyDigitsMessage count
  | notAFloat value => "could not convert string to float: ".toList ++ Text.quoted value

end ConversionError

namespace Conversion

/-- The value that a text is turned into. -/
def apply (value : Text) : Conversion → Except ConversionError Datum
  | text => .ok (.text value)
  | upper => .ok (.text (Text.upper value))
  | integer =>
    match Decimal.readInt value with
    | .ok number => .ok (.int number)
    | .error .malformed => .error (.notAnInteger value)
    | .error (.tooManyDigits count) => .error (.tooManyDigits count)
  | float =>
    match Decimal.readFraction value with
    | some fraction => .ok (.float (Decimal.Binary.ofFraction fraction))
    | none => .error (.notAFloat value)

end Conversion

/-- A regular expression with the conversion of what it captures. -/
structure Converter where
  regex : Text
  conversion : Conversion
  deriving Repr, DecidableEq

/-- Converters by name. -/
abbrev Converters := Table Converter

namespace Converters

/-- The converters that every pattern knows. -/
def builtin : Converters where
  entries :=
    [("str".toList, ⟨"[^/]+?".toList, .text⟩), ("int".toList, ⟨"\\d+".toList, .integer⟩),
      ("float".toList, ⟨"\\d+(?:\\.\\d+)?".toList, .float⟩), ("path".toList, ⟨".+".toList, .text⟩)]

/-- The built-in converters with those of a caller added or put in their place. -/
def extended (own : Converters) : Converters := builtin.update own

/-- A name comes before another one or is the same, by the order of code points. -/
def nameLe (one two : Text) : Bool := !(two < one)

/-- The names of converters in ascending order. -/
def sortedNames (converters : Converters) : List Text := converters.names.mergeSort nameLe

/-- A captured text converted by the converter of a name. -/
def convert (converters : Converters) (name value : Text) : Except ConversionError Datum :=
  match converters.get? name with
  | some converter => converter.conversion.apply value
  | none => .error (.unknownConverter name)

end Converters

end RoutePattern
