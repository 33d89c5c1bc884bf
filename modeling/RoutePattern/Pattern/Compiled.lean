import RoutePattern.Pattern.Options
import RoutePattern.Pattern.Token
import RoutePattern.Regex.Program

/-!
# Compiled patterns

A pattern becomes one regular expression, anchored at both ends, with one group for each of its
placeholders. The keys of the placeholders stand in the order of the groups.
-/
namespace RoutePattern

/-- A regular expression with the keys of its groups; a group without a name has none. -/
structure CompiledPath where
  program : Regex.Program
  keys : List (Option ParamKey)
  deriving Repr, DecidableEq

namespace CompiledPath

/-- The names of the keys in the order of their groups. -/
def names (compiled : CompiledPath) : List Text := compiled.keys.filterMap (·.map (·.name))

end CompiledPath

/-- The lead of a placeholder as a regular expression. -/
def leadSource (lead : Option Char) : Text := escapeRegex lead.toList

/-- The regular expression of all occurrences of a placeholder. -/
def Placeholder.captureSource (placeholder : Placeholder) : Text :=
  if placeholder.repeated then
    placeholder.regex ++
      ['(', '?', ':'] ++ leadSource placeholder.lead ++ placeholder.regex ++ [')', '*']
  else placeholder.regex

/-- A placeholder as a regular expression with one group. -/
def Placeholder.source (placeholder : Placeholder) : Text :=
  let lead := leadSource placeholder.lead
  let group := '(' :: placeholder.captureSource ++ [')']
  if !placeholder.optional then lead ++ group
  else if lead.isEmpty then group ++ ['?']
  else ['(', '?', ':'] ++ lead ++ group ++ [')', '?']

/-- A token as a regular expression. -/
def PatternToken.source : PatternToken → Text
  | .literal text => escapeRegex text
  | .placeholder found => found.source

/-- The key of a placeholder; a literal text has no group. -/
def PatternToken.key? : PatternToken → Option (Option ParamKey)
  | .literal _ => none
  | .placeholder found => some found.key

/-- A regular expression for an optional slash at the very end. -/
def optionalSlash : Text := "(?:/(?=$))?".toList

/-- A regular expression for the end of a segment. -/
def segmentEnd : Text := "(?=/|$)".toList

/-- The regular expression of a row of tokens, with what the options ask for at its end. -/
def routeSource (options : Options) (tokens : List PatternToken) : Text :=
  let route := tokens.flatMap PatternToken.source
  let endsInSlash := route.getLast? == some '/'
  let route :=
    if options.strict then route
    else (if endsInSlash then route.dropLast else route) ++ optionalSlash
  if options.whole then route ++ ['$']
  else if options.strict && endsInSlash then route
  else route ++ segmentEnd

/-- The flags of the regular expression of a route. -/
def Options.flags (options : Options) : Regex.Flags :=
  { Regex.Flags.none with ignoreCase := !options.sensitive }

/-- A pattern compiled under options. -/
def compilePattern (options : Options) (pattern : Text) : Except CompileError CompiledPath := do
  let tokens ← (tokenize options.converters pattern).mapError .pattern
  let keys := tokens.filterMap PatternToken.key?
  let source := '^' :: routeSource options tokens
  let program ← (Regex.Program.compile source options.flags).mapError
    (CompileError.ofRefusal pattern source)
  if program.groups = keys.length then pure ⟨program, keys⟩
  else .error (.pattern (.namedGroups pattern))

/-- The key of a named group in a regular expression of a caller. -/
def regexKey (name : Text) : ParamKey := ⟨name, false, false, [], standardConverter⟩

/-- A regular expression of a caller: its named groups become keys. -/
def compileProgram (program : Regex.Program) : CompiledPath :=
  ⟨program, (List.range program.groups).map fun index =>
    (program.nameOf? (index + 1)).map regexKey⟩

end RoutePattern
