import RoutePattern.Table
import RoutePattern.Url.Percent

/-!
# Query strings

A query string is a row of pairs `name=value`. Reading keeps names as they are written and
decodes values; writing encodes both. A name that comes again keeps its place and takes the later
value, empty pairs count for nothing, and what follows a second equals sign in a pair is dropped.
-/
namespace RoutePattern.Query

/-- The name and the decoded value of a pair. -/
def readPair (pair : Text) : Text × Text :=
  match Text.split '=' pair with
  | [] => ([], [])
  | [name] => (name, [])
  | name :: value :: _ => (name, Percent.decode value)

/-- The pairs of a query string without its question mark. -/
def readPairs (query : Text) : Table Text :=
  Table.ofList (((Text.split '&' query).filter fun pair => !pair.isEmpty).map readPair)

/-- The pairs of a query string, which may start with a question mark. -/
def read : Text → Table Text
  | '?' :: query => readPairs query
  | query => readPairs query

/-- A pair with both sides encoded. -/
def writePair (pair : Text × Text) : Text :=
  Percent.encode pair.1 ++ '=' :: Percent.encode pair.2

/-- Pairs as a query string with its question mark; no pairs are no text at all. -/
def write (pairs : List (Text × Text)) : Text :=
  if pairs.isEmpty then [] else '?' :: Text.join ['&'] (pairs.map writePair)

end RoutePattern.Query
