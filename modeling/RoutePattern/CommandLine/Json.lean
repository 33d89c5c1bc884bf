import RoutePattern.Text.Hex

/-!
# JSON texts

Results are printed as JSON in ASCII: members of objects and items of arrays stand on lines of
their own, indented by two spaces for each level, and characters beyond ASCII are escaped as
UTF-16 units.
-/
namespace RoutePattern

/-- A value of JSON without numbers. -/
inductive Json where
  | null
  | bool (value : Bool)
  | text (value : Text)
  | array (items : List Json)
  | object (members : List (Text × Json))
  deriving Repr, Inhabited

namespace Json

/-- The escape of a UTF-16 unit. -/
def escapeUnit (unit : Nat) : Text := '\\' :: 'u' :: Text.hexDigits 4 unit

/-- A character between quotes. -/
def escapeChar (c : Char) : Text :=
  let code := c.toNat
  if c == '"' then ['\\', '"']
  else if c == '\\' then ['\\', '\\']
  else if c == '\n' then ['\\', 'n']
  else if c == '\r' then ['\\', 'r']
  else if c == '\t' then ['\\', 't']
  else if code == 8 then ['\\', 'b']
  else if code == 12 then ['\\', 'f']
  else if 32 ≤ code && code ≤ 126 then [c]
  else if code < 0x10000 then escapeUnit code
  else
    let offset := code - 0x10000
    escapeUnit (0xD800 + offset / 0x400) ++ escapeUnit (0xDC00 + offset % 0x400)

/-- A text between quotes. -/
def quote (text : Text) : Text := '"' :: text.flatMap escapeChar ++ ['"']

/-- A new line at a level. -/
def newline (level : Nat) : Text := '\n' :: List.replicate (2 * level) ' '

/-- Lines between brackets at a level; without lines the brackets stand side by side. -/
def bracket (opening closing : Char) (level : Nat) (lines : List Text) : Text :=
  if lines.isEmpty then [opening, closing]
  else
    opening :: newline (level + 1) ++ Text.join (',' :: newline (level + 1)) lines ++
      newline level ++ [closing]

mutual

/-- The text of a value at a level. -/
def render (level : Nat) : Json → Text
  | null => "null".toList
  | bool value => if value then "true".toList else "false".toList
  | text value => quote value
  | array items => bracket '[' ']' level (renderItems (level + 1) items)
  | object members => bracket '\x7b' '\x7d' level (renderMembers (level + 1) members)

/-- The texts of items at a level. -/
def renderItems (level : Nat) : List Json → List Text
  | [] => []
  | item :: items => render level item :: renderItems level items

/-- The texts of members at a level. -/
def renderMembers (level : Nat) : List (Text × Json) → List Text
  | [] => []
  | (name, value) :: members =>
    (quote name ++ [':', ' '] ++ render level value) :: renderMembers level members

end

end Json

end RoutePattern
