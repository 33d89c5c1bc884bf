import RoutePattern.Params
import RoutePattern.Pattern.Compiled
import RoutePattern.Url.Record

/-!
# Routes

A route is a pattern compiled once, with a name and with the URL that the pattern itself is. Paths
are normalized and matched against it (`Route.find`), their parameters are taken out of them
(`Route.params`), and paths are built from parameters (`Route.resolve`).
-/
namespace RoutePattern

/-- What a route is made from. -/
inductive RouteSource where
  | pattern (text : Text)
  /-- A regular expression of the caller. -/
  | regex (program : Regex.Program)
  deriving Repr

namespace RouteSource

/-- The text of a source. -/
def text : RouteSource → Text
  | pattern text => text
  | regex program => program.source

end RouteSource

/-- A compiled route. -/
structure Route where
  source : RouteSource
  name : Text
  settings : Settings
  compiled : CompiledPath
  /-- The parts of the pattern as a URL; a regular expression has none. -/
  url : UrlRecord
  deriving Repr

/-- Why a path has no parameters. -/
inductive RouteError where
  | noMatch (route path : Text)
  | conversion (error : ConversionError)
  deriving Repr, DecidableEq

namespace RouteError

/-- The wording for a path that a route does not match. -/
def noMatchMessage (route path : Text) : Text :=
  "The route named \"".toList ++ route ++ "\" does not match the path \"".toList ++ path ++ ['"']

/-- The wording of an error. -/
def message : RouteError → Text
  | noMatch route path => noMatchMessage route path
  | conversion error => error.message

end RouteError

namespace Route

/-- A strict pattern that ends in a slash and is not that slash alone. -/
def isUnreachable (options : Options) (pattern : Text) : Bool :=
  options.strict && 1 < pattern.length && pattern.getLast? == some '/'

/-- The compiled form and the URL of a source. -/
def compileSource (options : Options) : RouteSource → Except CompileError (CompiledPath × UrlRecord)
  | .regex program => .ok (compileProgram program, UrlRecord.empty)
  | .pattern text =>
    if isUnreachable options text then .error (.pattern (.unreachable text))
    else do
      let compiled ← compilePattern options text
      pure (compiled, UrlRecord.read text)

/-- The route of a source. A route without a name is named by its source. -/
def make (source : RouteSource) (settings : Settings) (name : Text) :
    Except CompileError Route := do
  let (compiled, url) ← compileSource settings.options source
  pure ⟨source, if name.isEmpty then source.text else name, settings, compiled, url⟩

/-- The name of the type of routes. -/
def typeName : Text := "UrlPattern".toList

/-- The route as it is shown. -/
def shown (route : Route) : Text := typeName ++ '(' :: Text.quoted route.name ++ [')']

/-- The parts of a route that are read by name: its name, its pattern, and the fields of its URL. -/
def parts (route : Route) : List (Text × UrlField) :=
  ("name".toList, .text route.name) :: ("pattern".toList, .text route.source.text) ::
    route.url.fields

/-- The part of a name. -/
def part (route : Route) (name : Text) : Except Misuse UrlField :=
  match route.parts.lookup name with
  | some field => .ok field
  | none => .error (.unknownPart typeName name)

/-- No part of a route is replaced, whatever its name. -/
def replace (_route : Route) (_part : Text) : Misuse := .replacement typeName

/-- The converters of a route. -/
def converters (route : Route) : Converters := Converters.extended route.settings.options.converters

/-! ## Matching -/

/-- The match of a path. -/
def find (route : Route) (path : Text) : Option Regex.Match :=
  route.compiled.program.find (normalize path)

/-- The route matches a path. -/
def test (route : Route) (path : Text) : Bool := (route.find path).isSome

/-- The text that matches in a path, with the texts of the groups. -/
def captures (route : Route) (path : Text) : Option (List (Option Text)) :=
  (route.find path).map fun found => some found.whole :: found.captures

/-- The text of a URL between its first question mark and the next question mark or number sign. -/
def queryPart (url : Text) : Text :=
  match Text.split '?' url with
  | _ :: query :: _ => (Text.split '#' query).headD []
  | _ => []

/-- The text of a URL between its first and its second number sign. -/
def fragmentPart (url : Text) : Text :=
  match Text.split '#' url with
  | _ :: fragment :: _ => fragment
  | _ => []

/-- The captures of groups added to named and positional ones. The first capture of a name counts,
and a group that took no part gives its name no value. -/
def collect (route : Route) (convert : Bool) :
    List (Option ParamKey × Option Text) → Table Datum → List (Option Text) →
      Except ConversionError (Table Datum × List (Option Text))
  | [], named, positional => .ok (named, positional)
  | (none, value) :: rest, named, positional =>
    collect route convert rest named (positional ++ [value])
  | (some _, none) :: rest, named, positional => collect route convert rest named positional
  | (some key, some value) :: rest, named, positional =>
    if named.contains key.name then collect route convert rest named positional
    else if convert then do
      let datum ← route.converters.convert key.converter value
      collect route convert rest (named.set key.name datum) positional
    else collect route convert rest (named.set key.name (.text value)) positional

/-- The parameters of a path that a route matches. -/
def paramsOf (route : Route) (convert : Bool) (path : Text) (found : Regex.Match) :
    Except ConversionError Params := do
  let values := found.captures.map (·.map Percent.decode)
  let (named, positional) ←
    collect route convert (route.compiled.keys.zip values) Table.empty []
  let decoded := Percent.decodeUri path
  let query := Query.readPairs (queryPart decoded)
  let named :=
    query.entries.foldl (fun table entry => table.setNew entry.1 (Datum.text entry.2)) named
  pure ⟨named, positional, fragmentPart decoded, query⟩

/-- The parameters of a path, converted or as they are written. The empty path has none. -/
def params (route : Route) (path : Text) (convert : Bool) : Except RouteError Params :=
  if path.isEmpty then .ok Params.empty
  else match route.find path with
    | none => .error (.noMatch route.name path)
    | some found => (route.paramsOf convert path found).mapError .conversion

/-! ## Building paths -/

/-- The converter whose values keep their slashes. -/
def pathConverter : Text := "path".toList

/-- A value as a segment of a path. -/
def encodeSegment (converter : Text) (value : Datum) : Except ArgumentError Text := do
  let text ← value.toText
  if converter = pathConverter then
    pure (Text.join ['/'] ((Text.split '/' text).map Percent.encode))
  else pure (Percent.encode text)

/-- The values of a parameter, one for each segment. -/
def segments : Datum → List Datum
  | .list items | .tuple items => items
  | value => [value]

/-- Segments, each with the lead of its placeholder in front. -/
def writeSegments (lead : Option Char) (encoded : List Text) : Text :=
  lead.toList ++ Text.join lead.toList encoded

/-- The text of a placeholder in a path; none if it is left out. -/
def writePlaceholder (route : Text) (values : List (Datum × Datum)) (placeholder : Placeholder) :
    Except ArgumentError Text :=
  match placeholder.key with
  | none => .error (.positionalGroup route)
  | some key =>
    let value := (Datum.lookup values key.name).getD .null
    let isMissing := match value with
      | .null => true
      | value => value.isEmptyText
    if isMissing then
      if placeholder.optional then .ok [] else .error (.missingValue key.name route)
    else do
      let encoded ← (segments value).mapM (encodeSegment key.converter)
      pure (writeSegments placeholder.lead encoded)

/-- The text of tokens in a path. -/
def writeTokens (route : Text) (values : List (Datum × Datum)) :
    List PatternToken → Except ArgumentError Text
  | [] => .ok []
  | .literal text :: rest => do
    let after ← writeTokens route values rest
    pure (text ++ after)
  | .placeholder placeholder :: rest => do
    let text ← writePlaceholder route values placeholder
    let after ← writeTokens route values rest
    pure (text ++ after)

/-- The entries of a dictionary; any other value has none. -/
def entriesOf : Datum → List (Datum × Datum)
  | .dict entries => entries
  | _ => []

/-- A path with a query and a fragment. A query that counts as false and an empty fragment are left
out. -/
def writeUrl (path : Text) (query : Datum) (fragment : Text) : Except ArgumentError Text := do
  let search ← if query.isTrue then query.writeQuery else pure []
  pure (path ++ search ++ (if fragment.isEmpty then [] else '#' :: fragment))

/-- The tokens of a route; a regular expression has none. A pattern that has been compiled has been
cut into tokens before. -/
def tokens? (route : Route) : Option (List PatternToken) :=
  match route.source with
  | .regex _ => none
  | .pattern pattern => (tokenize route.settings.options.converters pattern).toOption

/-- The path of a route with values for its parameters; the empty path is the root. -/
def resolve (route : Route) (values query : Datum) (fragment : Text) : Except ArgumentError Text :=
  match route.tokens? with
  | none => .error .regexRoute
  | some tokens => do
    let path ← writeTokens route.name (entriesOf values) tokens
    writeUrl (if path.isEmpty then ['/'] else path) query fragment

end Route

end RoutePattern
