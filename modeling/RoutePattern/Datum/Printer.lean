import RoutePattern.Datum.Basic
import RoutePattern.Decimal.Shortest
import RoutePattern.Text.Quoted

/-!
# Texts of values

A text stands for itself; every other value is shown as it would be written down. An integer of
more than 4300 digits has no text, and neither has a value that holds one.
-/
namespace RoutePattern.Datum

/-- An octet between quotes. -/
def quoteOctet (quote : Char) (octet : Nat) : Text :=
  let c := Char.ofNat octet
  if octet < 128 then Text.quoteChar quote c else '\\' :: 'x' :: Text.hexDigits 2 octet

/-- Octets between quotes, after the letter that tells them from a text. -/
def quoteOctets (octets : List Nat) : Text :=
  let quote := Text.quoteFor (octets.map Char.ofNat)
  'b' :: quote :: octets.flatMap (quoteOctet quote) ++ [quote]

/-- The text of an integer, unless it has too many digits. -/
def intText (value : Int) : Option Text :=
  let digits := Text.ofNat value.natAbs
  if Decimal.digitLimit < digits.length then none
  else some (if value < 0 then '-' :: digits else digits)

/-- Texts between brackets. -/
def bracket (opening closing : Char) (items : List Text) : Text :=
  opening :: Text.join [',', ' '] items ++ [closing]

mutual

/-- A value as it is written down. -/
def shown : Datum → Option Text
  | null => some "None".toList
  | bool value => some (if value then "True".toList else "False".toList)
  | int value => intText value
  | float value => some value.text
  | text value => some (Text.quoted value)
  | bytes octets => some (quoteOctets octets)
  | list items => (shownAll items).map (bracket '[' ']')
  | tuple [item] => (shown item).map fun one => '(' :: one ++ [',', ')']
  | tuple items => (shownAll items).map (bracket '(' ')')
  | dict entries => (shownEntries entries).map (bracket '\x7b' '\x7d')

/-- Values as they are written down. -/
def shownAll : List Datum → Option (List Text)
  | [] => some []
  | item :: items => do
    let first ← shown item
    let rest ← shownAll items
    pure (first :: rest)

/-- Entries as they are written down. -/
def shownEntries : List (Datum × Datum) → Option (List Text)
  | [] => some []
  | (key, value) :: entries => do
    let name ← shown key
    let first ← shown value
    let rest ← shownEntries entries
    pure ((name ++ [':', ' '] ++ first) :: rest)

end

/-- The text of a value. -/
def toText? : Datum → Option Text
  | text value => some value
  | value => value.shown

/-- The text of a value in a query; nothing has the empty text. -/
def component? : Datum → Option Text
  | null => some []
  | value => value.toText?

end RoutePattern.Datum
