import RoutePattern.Text.Basic
import RoutePattern.Unicode.CaseMap
import RoutePattern.Unicode.CaseContext

/-!
# Upper and lower case of texts

Case maps of whole texts may change their length: `İ` becomes an `i` and a dot, `ß` becomes two
capital letters. A capital sigma at the end of a word becomes the final small sigma.
-/
namespace RoutePattern.Text

/-- The nearest character that is not looked through has a case. -/
def meetsCased (text : Text) : Bool :=
  match text.dropWhile fun c => Unicode.isCaseIgnorable c.toNat with
  | [] => false
  | c :: _ => Unicode.isCased c.toNat

/-- A sigma ends a word when a letter stands before it and none after it; `before` is the text
before it, the nearest character first. -/
def endsWord (before after : Text) : Bool := meetsCased before && !meetsCased after

/-- The lower case of a character at a place of a text. -/
def lowerAt (before : Text) (c : Char) (after : Text) : Text :=
  if c == 'Σ' then [if endsWord before after then 'ς' else 'σ']
  else if c == 'İ' then ['i', '\u0307']
  else [Char.ofNat (Unicode.toLower c.toNat)]

/-- The lower case of a text after the given characters, the nearest first. -/
def lowerAfter (before : Text) : Text → Text
  | [] => []
  | c :: rest => lowerAt before c rest ++ lowerAfter (c :: before) rest

/-- The lower case of a text. -/
def lower (text : Text) : Text := lowerAfter [] text

/-- The upper case of a text. -/
def upper (text : Text) : Text :=
  text.flatMap fun c => (Unicode.fullUpper c.toNat).map Char.ofNat

end RoutePattern.Text
