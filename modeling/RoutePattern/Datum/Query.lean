import RoutePattern.Datum.Printer
import RoutePattern.Url.Query

/-!
# Values in queries

Queries are read from and written from values of callers. Only a text can be read, only a
dictionary can be written, and every value in it is written as its text.
-/
namespace RoutePattern

/-- Why an argument is refused. -/
inductive ArgumentError where
  /-- A query that is no text; the kind of value it is. -/
  | expectedText (kind : Text)
  /-- Pairs that are no dictionary; the kind of value they are. -/
  | expectedMapping (kind : Text)
  /-- A path is to be built for a regular expression. -/
  | regexRoute
  /-- A path is to be built for a pattern with a group that has no name. -/
  | positionalGroup (route : Text)
  /-- A parameter that has to be given is missing. -/
  | missingValue (name route : Text)
  /-- An integer with too many digits to be written. -/
  | integerTooLong
  deriving Repr, DecidableEq

namespace ArgumentError

/-- The wording of an error. -/
def message : ArgumentError → Text
  | expectedText kind => "expected string, got ".toList ++ kind
  | expectedMapping kind => "expected mapping, got ".toList ++ kind
  | regexRoute => "Cannot resolve a path from a regular expression pattern.".toList
  | positionalGroup route =>
    "Cannot resolve positional groups in route ".toList ++ Text.quoted route ++ ['.']
  | missingValue name route =>
    "Missing value for parameter ".toList ++ Text.quoted name ++ " of route ".toList ++
      Text.quoted route ++ ['.']
  | integerTooLong =>
    ("Exceeds the limit (4300 digits) for integer string conversion; " ++
      "use sys.set_int_max_str_digits() to increase the limit").toList

end ArgumentError

namespace Datum

/-- A text, unless a value has none. -/
def orTooLong : Option Text → Except ArgumentError Text
  | some written => .ok written
  | none => .error .integerTooLong

/-- The text of a value. -/
def toText (value : Datum) : Except ArgumentError Text := orTooLong value.toText?

/-- A value as a component of a URL; nothing is the empty text. -/
def encodeComponent (value : Datum) : Except ArgumentError Text := do
  let written ← orTooLong value.component?
  pure (Percent.encode written)

/-- The pairs of a query string. A value that counts as false has none. -/
def readQuery (value : Datum) : Except ArgumentError (Table Text) :=
  if !value.isTrue then .ok Table.empty
  else match value with
    | text query => .ok (Query.read query)
    | other => .error (.expectedText other.kind)

/-- The texts of a dictionary's entries. -/
def entryTexts : List (Datum × Datum) → Except ArgumentError (List (Text × Text))
  | [] => .ok []
  | (key, value) :: entries => do
    let name ← orTooLong key.component?
    let written ← orTooLong value.component?
    let rest ← entryTexts entries
    pure ((name, written) :: rest)

/-- A dictionary as a query string. -/
def writeQuery : Datum → Except ArgumentError Text
  | dict entries => do
    let pairs ← entryTexts entries
    pure (Query.write pairs)
  | other => .error (.expectedMapping other.kind)

end Datum

end RoutePattern
