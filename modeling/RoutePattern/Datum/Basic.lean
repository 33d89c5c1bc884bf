import RoutePattern.Decimal.Binary
import RoutePattern.Misuse

/-!
# Values of callers

Parameters and query values may be of any kind that a caller has at hand. This module holds the
kinds, when a value counts as true, and when two values are equal: numbers are equal across their
kinds, and dictionaries whatever the order of their entries.
-/
namespace RoutePattern

/-- A value of a caller. -/
inductive Datum where
  | null
  | bool (value : Bool)
  | int (value : Int)
  | float (value : Decimal.Binary)
  | text (value : Text)
  | bytes (octets : List Nat)
  | list (items : List Datum)
  | tuple (items : List Datum)
  | dict (entries : List (Datum × Datum))
  deriving Repr, Inhabited

namespace Datum

/-- The name of the kind of a value. -/
def kind : Datum → Text
  | null => "NoneType".toList
  | bool _ => "bool".toList
  | int _ => "int".toList
  | float _ => "float".toList
  | text _ => "str".toList
  | bytes _ => "bytes".toList
  | list _ => "list".toList
  | tuple _ => "tuple".toList
  | dict _ => "dict".toList

/-- A value counts as true unless it is nothing, zero or empty. -/
def isTrue : Datum → Bool
  | null => false
  | bool value => value
  | int value => value != 0
  | float value => !value.isZero
  | text value => !value.isEmpty
  | bytes octets => !octets.isEmpty
  | list items | tuple items => !items.isEmpty
  | dict entries => !entries.isEmpty

/-- The integer that a value is; truth values are one and zero. -/
def toInt? : Datum → Option Int
  | bool value => some (if value then 1 else 0)
  | int value => some value
  | _ => none

/-- Two numbers are equal, whatever their kinds. -/
def sameNumber (one two : Datum) : Bool :=
  match one, two with
  | float x, float y => x.equals y
  | float x, other => other.toInt?.any x.equalsInt
  | other, float y => other.toInt?.any y.equalsInt
  | one, two => one.toInt?.isSome && one.toInt? == two.toInt?

mutual

/-- Two values are equal. -/
def equals : Datum → Datum → Bool
  | null, null => true
  | text one, text two => one == two
  | bytes one, bytes two => one == two
  | list one, list two => allEqual one two
  | tuple one, tuple two => allEqual one two
  | dict one, dict two => one.length == two.length && allFound one two
  | one, two => sameNumber one two

/-- Two rows of values are equal place by place. -/
def allEqual : List Datum → List Datum → Bool
  | [], [] => true
  | one :: ones, two :: twos => equals one two && allEqual ones twos
  | _, _ => false

/-- Every entry is found among other entries. -/
def allFound : List (Datum × Datum) → List (Datum × Datum) → Bool
  | [], _ => true
  | (key, value) :: rest, entries =>
    entries.any (fun entry => equals key entry.1 && equals value entry.2) && allFound rest entries

end

mutual

/-- The first part of a value that no dictionary takes as a key, if there is one. -/
def keyFault? : Datum → Option Datum
  | list items => some (list items)
  | dict entries => some (dict entries)
  | tuple items => firstKeyFault? items
  | _ => none

/-- The first part of a row of values that no dictionary takes as a key. -/
def firstKeyFault? : List Datum → Option Datum
  | [] => none
  | item :: items => item.keyFault?.orElse fun _ => firstKeyFault? items

end

/-- Entries with a key set to a value: in place where an equal key is there, which stays. -/
def setEntry (key value : Datum) : List (Datum × Datum) → List (Datum × Datum)
  | [] => [(key, value)]
  | entry :: entries =>
    if equals entry.1 key then (entry.1, value) :: entries
    else entry :: setEntry key value entries

/-- Entries with one more, unless no dictionary takes its key. -/
def addEntry (entries : List (Datum × Datum)) (key value : Datum) :
    Except Misuse (List (Datum × Datum)) :=
  match key.keyFault? with
  | some fault => .error (.notAKey fault.kind)
  | none => .ok (setEntry key value entries)

/-- The value of a name in the entries of a dictionary. -/
def lookup (entries : List (Datum × Datum)) (name : Text) : Option Datum :=
  (entries.find? fun entry => equals entry.1 (text name)).map (·.2)

/-- The value is the empty text. -/
def isEmptyText : Datum → Bool
  | text value => value.isEmpty
  | _ => false

end Datum

end RoutePattern
