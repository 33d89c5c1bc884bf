import RoutePattern.Regex.Escape

/-!
# Reading sets

A set is a row of items up to a closing bracket, which is an item itself where it comes first. A
hyphen between two items makes a range of them, and is an item itself where it comes first or
last.
-/
namespace RoutePattern.Regex

/-- What has been read of the next item: nothing yet, an item that a hyphen may turn into the
start of a range, or the start of a range. An item comes with the token it began with. -/
inductive Pending where
  | nothing
  | item (shown : Text) (item : SetItem)
  | rangeFrom (shown : Text) (low : SetItem)
  deriving Repr, DecidableEq

/-- The item that starts with a token. -/
def readSetItem (token : Token) (position : Nat) (after : Cursor) :
    Except Refusal (SetItem × Cursor) :=
  match token with
  | .escaped c => readSetEscape c position after
  | .plain c => .ok (.char c.toNat, after)
  | .dangling => after.fail .danglingEscape position

/-- The range between two items. -/
def makeRange (shownLow shownHigh : Text) (low high : SetItem) (after : Cursor) :
    Except Refusal SetItem :=
  let position := after.position - (shownLow.length + 1 + shownHigh.length)
  match low, high with
  | .char low, .char high =>
    if high < low then after.fail (.badRange shownLow shownHigh) position
    else .ok (.range low high)
  | _, _ => after.fail (.badRange shownLow shownHigh) position

/-- The items of a set from a place inside it on, latest first, and the cursor after the closing
bracket. The first `skip` tokens belong to an escape that has been read; `start` is the position
of the opening bracket. -/
def readSetItems (start : Nat) :
    List Token → (skip position : Nat) → List SetItem → Pending →
      Except Refusal (List SetItem × Cursor)
  | [], _, position, _, _ => Cursor.fail ⟨[], position⟩ .unterminatedSet start
  | .dangling :: tokens, _, position, _, _ =>
    Cursor.fail ⟨.dangling :: tokens, position⟩ .danglingEscape position
  | token :: tokens, skip + 1, position, items, pending =>
    readSetItems start tokens skip (position + token.width) items pending
  | token :: tokens, 0, position, items, pending => do
    let after : Cursor := ⟨tokens, position + token.width⟩
    match pending, token with
    | .item shown item, .plain '-' =>
      readSetItems start tokens 0 after.position items (.rangeFrom shown item)
    | .rangeFrom _ low, .plain ']' => .ok (.char '-'.toNat :: low :: items, after)
    | .rangeFrom shown low, token =>
      let (high, rest) ← readSetItem token position after
      let range ← makeRange shown token.text low high rest
      readSetItems start tokens (tokens.length - rest.tokens.length) after.position
        (range :: items) .nothing
    | .nothing, token =>
      if token == .plain ']' && !items.isEmpty then .ok (items, after)
      else
        let (item, rest) ← readSetItem token position after
        readSetItems start tokens (tokens.length - rest.tokens.length) after.position
          items (.item token.text item)
    | .item _ item, token =>
      let items := item :: items
      if token == .plain ']' then .ok (items, after)
      else
        let (next, rest) ← readSetItem token position after
        readSetItems start tokens (tokens.length - rest.tokens.length) after.position
          items (.item token.text next)

/-- The set after an opening bracket. A set of one code point is that code point, or any character
but that one. -/
def readSet (start : Nat) (cursor : Cursor) : Except Refusal (Expr × Cursor) := do
  let negated := cursor.startsWith '^'
  let cursor := if negated then cursor.next else cursor
  let (items, after) ← readSetItems start cursor.tokens 0 cursor.position [] .nothing
  match items.reverse.eraseDups, negated with
  | [.char code], true => pure (.notChar code, after)
  | [.char code], false => pure (.char code, after)
  | items, negated => pure (.set negated items, after)

end RoutePattern.Regex
