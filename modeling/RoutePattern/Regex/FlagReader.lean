import RoutePattern.Regex.Token
import RoutePattern.Regex.Flags
import RoutePattern.Unicode.Word

/-!
# Reading flags

Flags inside an expression stand after an opening parenthesis and a question mark: flags to turn
on, then perhaps a hyphen and flags to turn off, then a colon and the part of the expression that
they hold for. Flags that a closing parenthesis follows hold for the whole expression.
-/
namespace RoutePattern.Regex

/-- Flags as they are read. -/
inductive FlagGroup where
  /-- Flags for the whole expression. -/
  | whole (on : List FlagName)
  /-- A change for a part of the expression. -/
  | part (change : FlagChange)
  deriving Repr, DecidableEq

/-- A token is a letter of some script. -/
def Token.isLetter : Token → Bool
  | .plain c => Unicode.isLetter c.toNat
  | _ => false

/-- Refuses a token that stands where a flag was due: a letter is an unknown flag, and anything
else shows that something is missing. -/
def refuseFlag {α : Type} (what : String) (token : Token) (position : Nat) (after : Cursor) :
    Except Refusal α :=
  if token.isLetter then after.fail .unknownFlag position else after.fail (.missing what) position

/-- The flag that a token names. -/
def flagOf? : Token → Option FlagName
  | .plain c => FlagName.ofChar? c
  | _ => none

/-- The first fault of one more flag that is turned on. -/
def flagFault? (flag : FlagName) (on : List FlagName) : Option Fault :=
  if flag == .locale then some .localeFlag
  else if flag.isAlphabet && on.any fun other => other.isAlphabet && other != flag then
    some .incompatibleAlphabets
  else none

/-- The flags that are turned on, the first of which has been taken, together with the character
that ends them and the cursor after that. -/
def readFlagsOn (flag : FlagName) (on : List FlagName) :
    List Token → (position : Nat) → Except Refusal (List FlagName × Char × Cursor)
  | tokens, position =>
    match flagFault? flag on, tokens with
    | some fault, tokens => Cursor.fail ⟨tokens, position⟩ fault position
    | none, [] => Cursor.fail ⟨[], position⟩ (.missing "-, : or )") position
    | none, token :: tokens =>
      let after : Cursor := ⟨tokens, position + token.width⟩
      let on := on ++ [flag]
      match token, flagOf? token with
      | .dangling, _ => Cursor.fail ⟨token :: tokens, position⟩ .danglingEscape position
      | _, some next => readFlagsOn next on tokens after.position
      | .plain ')', none => .ok (on, ')', after)
      | .plain '-', none => .ok (on, '-', after)
      | .plain ':', none => .ok (on, ':', after)
      | token, none => refuseFlag "-, : or )" token position after

/-- The flags that are turned off, the first of which has been taken, and the cursor after the
colon that ends them. -/
def readFlagsOff (flag : FlagName) (off : List FlagName) :
    List Token → (position : Nat) → Except Refusal (List FlagName × Cursor)
  | tokens, position =>
    match flag.isAlphabet, tokens with
    | true, tokens => Cursor.fail ⟨tokens, position⟩ .fixedAlphabet position
    | false, [] => Cursor.fail ⟨[], position⟩ (.missing ":") position
    | false, token :: tokens =>
      let after : Cursor := ⟨tokens, position + token.width⟩
      let off := off ++ [flag]
      match token, flagOf? token with
      | .dangling, _ => Cursor.fail ⟨token :: tokens, position⟩ .danglingEscape position
      | _, some next => readFlagsOff next off tokens after.position
      | .plain ':', none => .ok (off, after)
      | token, none => refuseFlag ":" token position after

/-- The flags to be turned off after a hyphen. -/
def readOff (cursor : Cursor) : Except Refusal (List FlagName × Cursor) :=
  match cursor.tokens with
  | [] => cursor.fail (.missing "flag") cursor.position
  | token :: tokens =>
    let after : Cursor := ⟨tokens, cursor.position + token.width⟩
    match token, flagOf? token with
    | .dangling, _ => cursor.fail .danglingEscape cursor.position
    | _, some flag => readFlagsOff flag [] tokens after.position
    | token, none => refuseFlag "flag" token cursor.position after

/-- A change of flags, once it is known to be sound; the cursor stands after its colon. -/
def checkChange (on off : List FlagName) (after : Cursor) : Except Refusal (FlagGroup × Cursor) :=
  if off.contains .template then after.fail .globalFlagOff (after.position - 1)
  else if on.any off.contains then after.fail .flagOnAndOff (after.position - 1)
  else .ok (.part ⟨on, off⟩, after)

/-- The flags after a question mark that start with the given flag or, if there is none, with a
hyphen. The cursor stands after that first character. -/
def readFlags (first : Option FlagName) (cursor : Cursor) :
    Except Refusal (FlagGroup × Cursor) := do
  match first with
  | none =>
    let (off, after) ← readOff cursor
    checkChange [] off after
  | some flag =>
    let (on, terminator, after) ← readFlagsOn flag [] cursor.tokens cursor.position
    if terminator == ')' then pure (.whole on, after)
    else if on.contains .template then after.fail .globalFlagOn (after.position - 1)
    else if terminator == '-' then
      let (off, after) ← readOff after
      checkChange on off after
    else checkChange on [] after

end RoutePattern.Regex
