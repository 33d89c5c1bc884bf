import RoutePattern.Text.Hex
import RoutePattern.Text.Utf8

/-!
# Percent encoding

A component of a URL writes every character outside a small set as the escapes of its UTF-8
octets. Decoding cuts a text into plain characters and escapes, in one pass from the left, and
runs the UTF-8 decoder over the escapes; a plain character ends an unfinished sequence of octets.
A whole URL is decoded by the same pass with the escapes of its delimiters kept as they are, so
decoding adds no delimiter.
-/
namespace RoutePattern.Percent

open Text

/-- A character that a component shows as it is. -/
def isUnreserved (c : Char) : Bool :=
  c.isAlphanum || ['-', '_', '.', '!', '~', '*', '\x27', '(', ')'].contains c

/-- The escape of an octet. -/
def escape (octet : Nat) : Text := ['%', upperHexDigit (octet / 16), upperHexDigit (octet % 16)]

/-- A character of a component. -/
def encodeChar (c : Char) : Text :=
  if isUnreserved c then [c] else (Utf8.encode c.toNat).flatMap escape

/-- A text as a component of a URL. -/
def encode (text : Text) : Text := text.flatMap encodeChar

/-- An element of an escaped text. -/
inductive Piece where
  /-- A character that stands for itself. -/
  | plain (c : Char)
  /-- An escape with its two hexadecimal digits. -/
  | escape (high low : Char)
  deriving Repr, DecidableEq

namespace Piece

/-- The text of a piece. -/
def text : Piece → Text
  | plain c => [c]
  | escape high low => ['%', high, low]

/-- The octet of an escape. -/
def octet (high low : Char) : Nat := hexNumber [high, low]

end Piece

/-- The pieces of a text. A percent sign without two hexadecimal digits is a plain character. -/
def pieces : Text → List Piece
  | [] => []
  | '%' :: high :: low :: rest =>
    if isHex high && isHex low then .escape high low :: pieces rest
    else .plain '%' :: pieces (high :: low :: rest)
  | c :: rest => .plain c :: pieces rest

/-- The text of decoded pieces, from a state of the UTF-8 decoder on. The escapes of the octets
of `keeps` stay as they are written. -/
def decodeFrom (keeps : Nat → Bool) : Utf8.State → List Piece → Text
  | state, [] => Utf8.flush state
  | state, .plain c :: rest => Utf8.flush state ++ c :: decodeFrom keeps .idle rest
  | state, .escape high low :: rest =>
    let octet := Piece.octet high low
    if keeps octet then
      Utf8.flush state ++ (Piece.escape high low).text ++ decodeFrom keeps .idle rest
    else
      let (text, next) := Utf8.step state octet
      text ++ decodeFrom keeps next rest

/-- A component with all its escapes decoded. -/
def decode (text : Text) : Text := decodeFrom (fun _ => false) .idle (pieces text)

/-- The characters that give a whole URL its structure. -/
def delimiters : List Char := [';', '/', '?', ':', '@', '&', '=', '+', '$', ',', '#']

/-- The octet of a delimiter. -/
def isDelimiter (octet : Nat) : Bool := delimiters.any fun c => c.toNat == octet

/-- A whole URL with all escapes decoded but those of delimiters. -/
def decodeUri (text : Text) : Text := decodeFrom isDelimiter .idle (pieces text)

/-- The pieces of a text make up the text. -/
theorem flatMap_text_pieces (text : Text) : (pieces text).flatMap Piece.text = text := by
  fun_induction pieces text with
  | case1 => rfl
  | case2 high low rest _ ih => simp [Piece.text, ih]
  | case3 high low rest _ ih => simpa [Piece.text] using ih
  | case4 c rest _ ih => simp [Piece.text, ih]

end RoutePattern.Percent
