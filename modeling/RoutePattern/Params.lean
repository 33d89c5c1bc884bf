import RoutePattern.Datum.Query
import RoutePattern.Misuse
import RoutePattern.Table

/-!
# Parameters of a path

What a route finds in a path: values by name, captures without a name by their place, the
fragment, and the whole query. A name is looked up among the named values and an integer among the
places, from the end if it is negative.
-/
namespace RoutePattern

/-- The parameters of a path. -/
structure Params where
  /-- Named captures, then values of the query whose names no capture has. -/
  named : Table Datum
  /-- Captures without a name; none for a group that took no part. -/
  positional : List (Option Text)
  fragment : Text
  /-- All values of the query. -/
  query : Table Text
  deriving Repr

/-- Why a key is not looked up. -/
inductive LookupError where
  /-- Nothing is there under the key. -/
  | missing (key : Datum)
  /-- No key is of this kind. -/
  | notAKey (kind : Text)
  deriving Repr

namespace LookupError

/-- The wording of an error. -/
def message : LookupError → Text
  | missing key => key.shown.getD []
  | notAKey kind => (Misuse.notAKey kind).message

end LookupError

namespace Params

/-- The name of the type of parameters. -/
def typeName : Text := "RouteParams".toList

/-- No part of parameters is replaced, whatever its name. -/
def replace (_params : Params) (_part : Text) : Misuse := .replacement typeName

/-- Parameters are no key. -/
def asKey (_params : Params) : Misuse := .notAKey typeName

/-- No parameters. -/
def empty : Params := ⟨Table.empty, [], [], Table.empty⟩

/-- A text that may be missing, as a value. -/
def ofCapture : Option Text → Datum
  | some text => .text text
  | none => .null

/-- The capture at a place, counted from the end if the place is negative. -/
def at? (params : Params) (index : Int) : Option (Option Text) :=
  let place := if index < 0 then index + params.positional.length else index
  if place < 0 then none else params.positional[place.toNat]?

/-- The value under a key. -/
def find (params : Params) (key : Datum) : Except LookupError Datum :=
  match key.toInt? with
  | some index =>
    match params.at? index with
    | some capture => .ok (ofCapture capture)
    | none => .error (.missing key)
  | none =>
    match key.keyFault?, key with
    | some fault, _ => .error (.notAKey fault.kind)
    | none, .text name =>
      match params.named.get? name with
      | some value => .ok value
      | none => .error (.missing key)
    | none, _ => .error (.missing key)

/-- The value under a key, or another one if nothing is there. -/
def findD (params : Params) (key fallback : Datum) : Except LookupError Datum :=
  match params.find key with
  | .error (.missing _) => .ok fallback
  | result => result

/-- Something is there under a key. -/
def contains (params : Params) (key : Datum) : Except LookupError Bool :=
  match params.find key with
  | .ok _ => .ok true
  | .error (.missing _) => .ok false
  | .error error => .error error

/-- There is a named value or a capture. -/
def isTrue (params : Params) : Bool := !params.named.isEmpty || !params.positional.isEmpty

/-- The named values as a dictionary. -/
def toDatum (params : Params) : Datum :=
  .dict (params.named.entries.map fun entry => (.text entry.1, entry.2))

/-- Two sets of parameters are equal, whatever their queries. -/
def equals (params other : Params) : Bool :=
  params.toDatum.equals other.toDatum && params.positional == other.positional &&
    params.fragment == other.fragment

/-- The named values are the entries of a dictionary. -/
def equalsDatum (params : Params) : Datum → Bool
  | .dict entries => params.toDatum.equals (.dict entries)
  | _ => false

/-- The parameters as they are shown; none if an integer among them has too many digits. -/
def shown (params : Params) : Option Text := do
  let named ← params.toDatum.shown
  let positional ← (Datum.tuple (params.positional.map ofCapture)).shown
  pure (typeName ++ '(' :: named ++ ", positional=".toList ++ positional ++
    ", hash=".toList ++ Text.quoted params.fragment ++ [')'])

end Params

end RoutePattern
