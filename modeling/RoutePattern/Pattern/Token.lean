import RoutePattern.Pattern.Converter
import RoutePattern.Pattern.Group
import RoutePattern.Unicode.Word

/-!
# Tokens of route patterns

A route pattern is a row of literal texts and placeholders. A placeholder is a parameter by name
(`:name`, perhaps with a regular expression between parentheses), a parameter in braces with a
converter (`{name:converter}`), a group without a name, or an asterisk; a slash or point in front
of it belongs to it, and a modifier after it makes it optional or repeated. A backslash makes the
character after it literal.
-/
namespace RoutePattern

open Text

/-- A parameter with a name. -/
structure ParamKey where
  name : Text
  optional : Bool
  repeated : Bool
  /-- The regular expression of one occurrence. -/
  regex : Text
  /-- The name of its converter. -/
  converter : Text
  deriving Repr, DecidableEq

/-- A placeholder of a pattern. -/
structure Placeholder where
  /-- The slash or point in front of it. -/
  lead : Option Char
  regex : Text
  optional : Bool
  repeated : Bool
  /-- Its name and what goes with it; none for a group without a name. -/
  key : Option ParamKey
  deriving Repr, DecidableEq

/-- An element of a pattern. -/
inductive PatternToken where
  | literal (text : Text)
  | placeholder (found : Placeholder)
  deriving Repr, DecidableEq

/-- The characters with a meaning in regular expressions, in the order of code points. -/
def regexSpecials : List Char :=
  ['\t', '\n', '\x0B', '\x0C', '\r', ' ', '#', '$', '&', '(', ')', '*', '+', '-', '.', '?', '[',
    '\\', ']', '^', '\x7b', '|', '\x7d', '~']

/-- A text as a regular expression that matches this text alone. -/
def escapeRegex (text : Text) : Text :=
  text.flatMap fun c => if regexSpecials.contains c then ['\\', c] else [c]

/-- A character that may stand in the name of a parameter after a colon. -/
def isNameChar (c : Char) : Bool := Unicode.isWord c.toNat

/-- What a placeholder starts with. -/
inductive PlaceholderHead where
  /-- A name after a colon. -/
  | named (name : Text)
  /-- A name and perhaps a converter between braces. -/
  | braced (name : Text) (converter : Option Text)
  /-- A group without a name. -/
  | group
  | asterisk
  deriving Repr, DecidableEq

/-- A character that may stand between braces before the colon. -/
def inBraceName (c : Char) : Bool := !(['\x7b', '\x7d', ':'].contains c)

/-- A character that may stand between braces after the colon. -/
def inBraceConverter (c : Char) : Bool := !(['\x7b', '\x7d'].contains c)

/-- The head after an opening brace, and the text after the closing brace. -/
def readBraced (text : Text) : Option (PlaceholderHead × Text) :=
  match text.span inBraceName with
  | (name, '\x7d' :: rest) => some (.braced name none, rest)
  | (name, ':' :: rest) =>
    match rest.span inBraceConverter with
    | (converter, '\x7d' :: rest) => some (.braced name (some converter), rest)
    | _ => none
  | _ => none

/-- The head of a placeholder that a text starts with, without its lead, and the text after the
head. The parenthesis of a group stays in that text. -/
def readHead : Text → Option (PlaceholderHead × Text)
  | ':' :: rest =>
    match rest.span isNameChar with
    | ([], _) => none
    | (name, rest) => some (.named name, rest)
  | '\x7b' :: rest => readBraced rest
  | '(' :: rest => some (.group, '(' :: rest)
  | '*' :: rest => some (.asterisk, rest)
  | _ => none

/-- The head of a placeholder that a text starts with, together with its lead. -/
def readLedHead (text : Text) : Option (Option Char × PlaceholderHead × Text) :=
  match text with
  | [] => none
  | c :: rest =>
    if c == '/' || c == '.' then (readHead rest).map fun (head, rest) => (some c, head, rest)
    else (readHead text).map fun (head, rest) => (none, head, rest)

/-- The regular expression between the parentheses that a text starts with, and the text after
them. `position` is the place of the text in the pattern. -/
def readGroup (pattern : Text) (position : Nat) (text : Text) :
    Except PatternError (Text × Text) :=
  match closeGroup 0 false (text.drop 1) with
  | none => .error (.unbalancedGroup position pattern)
  | some ([], _) => .error (.emptyGroup position pattern)
  | some (body, rest) => .ok (body, rest)

/-- Whether the modifier that a text starts with makes a placeholder optional and whether it makes
it repeated, and the text after the modifier. -/
def readModifier : Text → Bool × Bool × Text
  | '?' :: rest => (true, false, rest)
  | '*' :: rest => (true, true, rest)
  | '+' :: rest => (false, true, rest)
  | rest => (false, false, rest)

/-- The regular expression of a parameter without one of its own: anything up to the next lead,
which is a slash if the parameter has none. -/
def standardRegex (lead : Option Char) : Text :=
  ['[', '^'] ++ escapeRegex [lead.getD '/'] ++ [']', '+', '?']

/-- The regular expression of a converter. -/
def converterRegex (converters : Converters) (pattern name converter : Text) :
    Except PatternError Text :=
  match converters.get? converter with
  | some found => .ok (nonCapturing found.regex)
  | none => .error (.unknownConverter converter name pattern converters.sortedNames)

/-- A placeholder with a name. -/
def keyedPlaceholder (lead : Option Char) (name regex converter : Text) (optional repeated : Bool) :
    Placeholder :=
  ⟨lead, regex, optional, repeated, some ⟨name, optional, repeated, regex, converter⟩⟩

/-- The name of the converter of a parameter that names none. -/
def standardConverter : Text := "str".toList

/-- The rest of a placeholder after its head, and the text after the placeholder. `position` is the
place of that rest in the pattern. -/
def readPlaceholder (converters : Converters) (pattern : Text) (lead : Option Char)
    (head : PlaceholderHead) (position : Nat) (text : Text) :
    Except PatternError (Placeholder × Text) :=
  match head with
  | .asterisk => .ok (⟨lead, ['.', '*'], false, false, none⟩, text)
  | .group => do
    let (body, rest) ← readGroup pattern position text
    let (optional, repeated, rest) := readModifier rest
    pure (⟨lead, nonCapturing body, optional, repeated, none⟩, rest)
  | .named name => do
    let (regex, rest) ←
      if text.head? == some '(' then
        (readGroup pattern position text).map fun (body, rest) => (nonCapturing body, rest)
      else pure (standardRegex lead, text)
    let (optional, repeated, rest) := readModifier rest
    pure (keyedPlaceholder lead name regex standardConverter optional repeated, rest)
  | .braced inner converter => do
    let (optional, repeated, rest) := readModifier text
    let name := strip inner
    let converter :=
      match converter with
      | none | some [] => standardConverter
      | some converter => strip converter
    if name.isEmpty then .error (.emptyName pattern)
    else
      let regex ← converterRegex converters pattern name converter
      pure (keyedPlaceholder lead name regex converter optional repeated, rest)

/-- A literal text in front of other tokens, unless it is empty. -/
def literalBefore (literal : Text) (tokens : List PatternToken) : List PatternToken :=
  if literal.isEmpty then tokens else .literal literal :: tokens

/-- The tokens of the rest of a pattern. The first `skip` characters of the rest belong to what
has been read, `position` is its place in the pattern, and `literal` is the literal text before
it, latest character first. -/
def readTokens (converters : Converters) (pattern : Text) :
    Text → (skip position : Nat) → (literal : Text) → Except PatternError (List PatternToken)
  | [], _, _, literal => .ok (literalBefore literal.reverse [])
  | _ :: rest, skip + 1, position, literal =>
    readTokens converters pattern rest skip (position + 1) literal
  | c :: rest, 0, position, literal =>
    match c, rest with
    | '\\', escaped :: _ =>
      if escaped == '\n' then
        readTokens converters pattern rest 0 (position + 1) ('\\' :: literal)
      else readTokens converters pattern rest 1 (position + 1) (escaped :: literal)
    | _, _ =>
      match readLedHead (c :: rest) with
      | none =>
        if c == ')' then .error (.strayParenthesis pattern)
        else readTokens converters pattern rest 0 (position + 1) (c :: literal)
      | some (lead, head, body) => do
        let bodyPosition := position + (rest.length + 1 - body.length)
        let (placeholder, after) ← readPlaceholder converters pattern lead head bodyPosition body
        let tokens ←
          readTokens converters pattern rest (rest.length - after.length) (position + 1) []
        pure (literalBefore literal.reverse (.placeholder placeholder :: tokens))

/-- The tokens of a pattern, with the converters of a caller. -/
def tokenize (own : Converters) (pattern : Text) : Except PatternError (List PatternToken) :=
  readTokens (Converters.extended own) pattern pattern 0 0 []

end RoutePattern
