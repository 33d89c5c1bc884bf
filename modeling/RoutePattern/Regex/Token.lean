import RoutePattern.Regex.Fault

/-!
# Tokens of a regular expression

The source is cut into characters and escapes, a backslash with the character after it. A
backslash that ends the source escapes nothing: it is a fault as soon as the token before it is
taken, which a cursor over the tokens takes care of (`Cursor.refuse`).
-/
namespace RoutePattern.Regex

/-- An element of the source. -/
inductive Token where
  | plain (c : Char)
  | escaped (c : Char)
  /-- A backslash with nothing after it. -/
  | dangling
  deriving Repr, DecidableEq

namespace Token

/-- The text of a token. -/
def text : Token → Text
  | plain c => [c]
  | escaped c => ['\\', c]
  | dangling => ['\\']

/-- The count of characters of a token. -/
def width : Token → Nat
  | plain _ => 1
  | escaped _ => 2
  | dangling => 1

/-- The tokens of a source. -/
def ofText : Text → List Token
  | [] => []
  | ['\\'] => [dangling]
  | '\\' :: c :: rest => escaped c :: ofText rest
  | c :: rest => plain c :: ofText rest

/-- The tokens of a source make up the source. -/
theorem flatMap_text_ofText (source : Text) : (ofText source).flatMap text = source := by
  fun_induction ofText source with
  | case1 => rfl
  | case2 => rfl
  | case3 c rest ih => simp [text, ih]
  | case4 c rest _ _ ih => simp [text, ih]

end Token

/-- The tokens that are left, and the position of the first of them. -/
structure Cursor where
  tokens : List Token
  position : Nat
  deriving Repr, DecidableEq

namespace Cursor

/-- Refuses a source whose tokens have been taken up to the cursor. A dangling backslash that
comes next would have been met before. -/
def refuse {α : Type} (cursor : Cursor) (refusal : Refusal) : Except Refusal α :=
  match cursor.tokens with
  | .dangling :: _ => .error (.fault .danglingEscape (some cursor.position))
  | _ => .error refusal

/-- Refuses a source for a fault at a position. -/
def fail {α : Type} (cursor : Cursor) (fault : Fault) (position : Nat) : Except Refusal α :=
  cursor.refuse (.fault fault (some position))

/-- The next token is a given character. -/
def startsWith (cursor : Cursor) (c : Char) : Bool := cursor.tokens.head? == some (.plain c)

/-- The cursor after one token. -/
def next (cursor : Cursor) : Cursor :=
  match cursor.tokens with
  | [] => cursor
  | token :: tokens => ⟨tokens, cursor.position + token.width⟩

/-- The characters of a class in front of the cursor, at most `limit` of them, and the cursor after
them. -/
def takeWhile (accepts : Char → Bool) : (limit : Nat) → Cursor → Text × Cursor
  | 0, cursor => ([], cursor)
  | limit + 1, cursor =>
    match cursor.tokens with
    | .plain c :: tokens =>
      if accepts c then
        let (taken, after) := takeWhile accepts limit ⟨tokens, cursor.position + 1⟩
        (c :: taken, after)
      else ([], cursor)
    | _ => ([], cursor)

end Cursor

end RoutePattern.Regex
