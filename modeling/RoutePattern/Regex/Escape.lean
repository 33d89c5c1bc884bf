import RoutePattern.Decimal.Numeral
import RoutePattern.Regex.Expr
import RoutePattern.Regex.Token
import RoutePattern.Unicode.Name

/-!
# Escapes of regular expressions

Escapes that name one code point or one class of characters, as they are read inside and outside
of sets. Each reader gets the position of the backslash and the cursor after the letter, and
returns the cursor after the escape.
-/
namespace RoutePattern.Regex

/-- A letter or digit between two others of ASCII. -/
def between (low high c : Char) : Bool := low ≤ c && c ≤ high

/-- An octal digit. -/
def isOctal (c : Char) : Bool := between '0' '7' c

/-- The number that a row of octal digits stands for. -/
def octalNumber (digits : Text) : Nat :=
  digits.foldl (fun number c => number * 8 + (c.toNat - 48)) 0

namespace Cursor

/-- A name up to its terminator, and the cursor after that. The name is the text of all tokens
before the terminator and must not be empty. -/
def readName (terminator : Char) (what : String) (taken : Text) :
    List Token → (position : Nat) → Except Refusal (Text × Cursor)
  | [], position =>
    if taken.isEmpty then fail ⟨[], position⟩ (.missing what) position
    else fail ⟨[], position⟩ (.unterminatedName terminator) (position - taken.length)
  | .dangling :: tokens, position => fail ⟨.dangling :: tokens, position⟩ .danglingEscape position
  | token :: tokens, position =>
    let after : Cursor := ⟨tokens, position + token.width⟩
    if token == .plain terminator then
      if taken.isEmpty then after.fail (.missing what) position else .ok (taken, after)
    else readName terminator what (taken ++ token.text) tokens after.position

end Cursor

/-- The code point of an escape with a fixed count of hexadecimal digits. -/
def readHexEscape (letter : Char) (count start : Nat) (cursor : Cursor) :
    Except Refusal (Nat × Cursor) :=
  let (digits, after) := cursor.takeWhile Text.isHex count
  let escape := '\\' :: letter :: digits
  let code := Text.hexNumber digits
  if digits.length < count then after.fail (.incompleteEscape escape) start
  else if code < 0x110000 then .ok (code, after)
  else if code < Nat.pow 2 31 then after.fail (.badEscape escape) start
  else after.refuse .codePointTooLarge

/-- The code point of an escape with the name of a character. -/
def readNamedEscape (start : Nat) (cursor : Cursor) : Except Refusal (Nat × Cursor) :=
  if cursor.startsWith '\x7b' then do
    let opened := cursor.next
    let (name, after) ← Cursor.readName '\x7d' "character name" [] opened.tokens opened.position
    match Unicode.charNamed? name with
    | some code => pure (code, after)
    | none => after.fail (.undefinedCharacterName name) start
  else cursor.fail (.missing "\x7b") cursor.position

/-- The control character that a letter stands for after a backslash. -/
def controlEscape? : Char → Option Nat
  | 'a' => some 7
  | 'f' => some 12
  | 'n' => some 10
  | 'r' => some 13
  | 't' => some 9
  | 'v' => some 11
  | '\\' => some 92
  | _ => none

/-- The class of characters that a letter stands for after a backslash, and whether the class is
the complement. -/
def categoryEscape? : Char → Option SetItem
  | 'd' => some (.category .digit false)
  | 'D' => some (.category .digit true)
  | 's' => some (.category .blank false)
  | 'S' => some (.category .blank true)
  | 'w' => some (.category .word false)
  | 'W' => some (.category .word true)
  | _ => none

/-- An escape that names a code point and is read alike everywhere. None stands for a letter of
no such escape. -/
def readCodeEscape? (letter : Char) (start : Nat) (cursor : Cursor) :
    Option (Except Refusal (Nat × Cursor)) :=
  if letter == 'x' then some (readHexEscape letter 2 start cursor)
  else if letter == 'u' then some (readHexEscape letter 4 start cursor)
  else if letter == 'U' then some (readHexEscape letter 8 start cursor)
  else if letter == 'N' then some (readNamedEscape start cursor)
  else none

/-- An escape that has no meaning of its own: a letter or digit of ASCII is refused, any other
character stands for itself. -/
def readPlainEscape (letter : Char) (start : Nat) (cursor : Cursor) : Except Refusal Nat :=
  if letter.isAlphanum then cursor.fail (.badEscape ['\\', letter]) start else .ok letter.toNat

/-- An escape inside a set. -/
def readSetEscape (letter : Char) (start : Nat) (cursor : Cursor) :
    Except Refusal (SetItem × Cursor) :=
  if letter == 'b' then .ok (.char 8, cursor)
  else match controlEscape? letter, categoryEscape? letter with
    | some code, _ => .ok (.char code, cursor)
    | none, some item => .ok (item, cursor)
    | none, none =>
      match readCodeEscape? letter start cursor with
      | some result => result.map fun (code, after) => (.char code, after)
      | none =>
        if isOctal letter then
          let (digits, after) := cursor.takeWhile isOctal 2
          let code := octalNumber (letter :: digits)
          if 0o377 < code then
            after.fail (.octalOutOfRange ('\\' :: letter :: digits)) start
          else .ok (.char code, after)
        else (readPlainEscape letter start cursor).map fun code => (.char code, cursor)

end RoutePattern.Regex
