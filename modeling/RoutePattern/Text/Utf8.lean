import RoutePattern.Text.Basic

/-!
# UTF-8

Octets are natural numbers below 256. Decoding is a machine that takes one octet at a time: it
stands between characters, or it owes continuation octets, of which the next one lies in a range
(the range of the second octet is narrower after some first octets). Octets that belong to no
character are replaced, one replacement character for each longest start of a character that
does not go on.
-/
namespace RoutePattern.Utf8

/-- The octets of a code point. -/
def encode (code : Nat) : List Nat :=
  if code < 0x80 then [code]
  else if code < 0x800 then [0xC0 + code / 64, 0x80 + code % 64]
  else if code < 0x10000 then [0xE0 + code / 4096, 0x80 + code / 64 % 64, 0x80 + code % 64]
  else [0xF0 + code / 262144, 0x80 + code / 4096 % 64, 0x80 + code / 64 % 64, 0x80 + code % 64]

/-- Where the decoder stands between octets. -/
inductive State where
  /-- Between characters. -/
  | idle
  /-- Inside a character: the bits so far, the count of octets owed, and the least and the
  greatest octet that may come next. -/
  | owing (bits owed low high : Nat)
  deriving Repr, DecidableEq

/-- The character that stands for octets that form none. -/
def replacement : Char := '\uFFFD'

/-- The state after the first octet of a character, or none when no character starts so. -/
def start (octet : Nat) : Option State :=
  if 0xC2 ≤ octet ∧ octet ≤ 0xDF then some (.owing (octet - 0xC0) 1 0x80 0xBF)
  else if octet = 0xE0 then some (.owing 0 2 0xA0 0xBF)
  else if octet = 0xED then some (.owing 0xD 2 0x80 0x9F)
  else if 0xE1 ≤ octet ∧ octet ≤ 0xEF then some (.owing (octet - 0xE0) 2 0x80 0xBF)
  else if octet = 0xF0 then some (.owing 0 3 0x90 0xBF)
  else if 0xF1 ≤ octet ∧ octet ≤ 0xF3 then some (.owing (octet - 0xF0) 3 0x80 0xBF)
  else if octet = 0xF4 then some (.owing 4 3 0x80 0x8F)
  else none

/-- One octet between characters: the text it yields and the state after it. -/
def begin (octet : Nat) : Text × State :=
  if octet < 0x80 then ([Char.ofNat octet], .idle)
  else match start octet with
    | some state => ([], state)
    | none => ([replacement], .idle)

/-- One octet: the text it yields and the state after it. -/
def step : State → (octet : Nat) → Text × State
  | .idle, octet => begin octet
  | .owing bits owed low high, octet =>
    if low ≤ octet ∧ octet ≤ high then
      let bits := bits * 64 + (octet - 0x80)
      if owed ≤ 1 then ([Char.ofNat bits], .idle) else ([], .owing bits (owed - 1) 0x80 0xBF)
    else
      let (text, state) := begin octet
      (replacement :: text, state)

/-- The text that the end of the octets yields: a character that was not finished is replaced. -/
def flush : State → Text
  | .idle => []
  | .owing .. => [replacement]

/-- The text that octets yield from a state on. -/
def decodeFrom : State → List Nat → Text
  | state, [] => flush state
  | state, octet :: octets =>
    let (text, next) := step state octet
    text ++ decodeFrom next octets

/-- The text of octets. -/
def decode (octets : List Nat) : Text := decodeFrom .idle octets

end RoutePattern.Utf8
