import RoutePattern.Proofs.Delimiter
import RoutePattern.Url.Percent

/-!
# Components of a URL

A text that is encoded as a component is decoded to itself, whatever follows it
(`decode_encode_append`). The encoded text is made of unreserved characters and escapes, so it
holds no delimiter (`not_mem_encode`).
-/
namespace RoutePattern

namespace Utf8

/-- The text that octets yield from a state on, and the state after them. -/
def feed : State → (octets : List Nat) → Text × State
  | state, [] => ([], state)
  | state, octet :: octets =>
    let (text, next) := step state octet
    let (later, last) := feed next octets
    (text ++ later, last)

/-- Feeding an octet is a step, then feeding the others. -/
theorem feed_cons {state next : State} {octet : Nat} {text : Text} (octets : List Nat)
    (stepped : step state octet = (text, next)) :
    feed state (octet :: octets) = (text ++ (feed next octets).1, (feed next octets).2) := by
  simp only [feed, stepped]

/-- An octet of ASCII is a character. -/
theorem step_ascii {octet : Nat} (ascii : octet < 0x80) :
    step .idle octet = ([Char.ofNat octet], .idle) := by
  rw [step, begin, if_pos ascii]

/-- An octet that starts a character. -/
theorem step_start {octet : Nat} {next : State} (high : 0x80 ≤ octet)
    (starts : start octet = some next) : step .idle octet = ([], next) := by
  rw [step, begin, if_neg (by omega), starts]

/-- An octet that goes on with a character but does not end it. -/
theorem step_middle {bits owed low high octet : Nat} (inside : low ≤ octet ∧ octet ≤ high)
    (more : 1 < owed) :
    step (.owing bits owed low high) octet =
      ([], .owing (bits * 64 + (octet - 0x80)) (owed - 1) 0x80 0xBF) := by
  simp only [step, if_pos inside]
  rw [if_neg (by omega)]

/-- An octet that ends a character. -/
theorem step_last {bits low high octet : Nat} (inside : low ≤ octet ∧ octet ≤ high) :
    step (.owing bits 1 low high) octet =
      ([Char.ofNat (bits * 64 + (octet - 0x80))], .idle) := by
  simp only [step, if_pos inside]
  rfl

/-- The first of two octets. -/
theorem start_two {octet : Nat} (inside : 0xC2 ≤ octet ∧ octet ≤ 0xDF) :
    start octet = some (.owing (octet - 0xC0) 1 0x80 0xBF) := by
  rw [start, if_pos inside]

/-- The first of three octets bounds the second so that no shorter character and no surrogate is
written. -/
theorem start_three {octet : Nat} (inside : 0xE0 ≤ octet ∧ octet ≤ 0xEF) :
    start octet = some (.owing (octet - 0xE0) 2 (if octet = 0xE0 then 0xA0 else 0x80)
      (if octet = 0xED then 0x9F else 0xBF)) := by
  rw [start, if_neg (by omega)]
  by_cases least : octet = 0xE0
  · subst least
    rfl
  · by_cases surrogate : octet = 0xED
    · subst surrogate
      rfl
    · rw [if_neg least, if_neg surrogate, if_pos (by omega), if_neg least, if_neg surrogate]

/-- The first of four octets bounds the second so that no shorter character and none beyond the
last one is written. -/
theorem start_four {octet : Nat} (inside : 0xF0 ≤ octet ∧ octet ≤ 0xF4) :
    start octet = some (.owing (octet - 0xF0) 3 (if octet = 0xF0 then 0x90 else 0x80)
      (if octet = 0xF4 then 0x8F else 0xBF)) := by
  obtain rfl | rfl | rfl | rfl | rfl :
      octet = 0xF0 ∨ octet = 0xF1 ∨ octet = 0xF2 ∨ octet = 0xF3 ∨ octet = 0xF4 := by omega
  · rfl
  · rfl
  · rfl
  · rfl
  · rfl

/-- The octets of a character yield the character. -/
theorem feed_encode (c : Char) : feed .idle (encode c.toNat) = ([c], .idle) := by
  have valid : c.toNat < 0xD800 ∨ 0xDFFF < c.toNat ∧ c.toNat < 0x110000 := c.valid
  have back {code : Nat} (same : code = c.toNat) : Char.ofNat code = c := by
    rw [same, Char.ofNat_toNat]
  generalize c.toNat = code at valid back
  unfold encode
  -- By the number of octets: each of them brings the decoder one state further.
  by_cases one : code < 0x80
  · rw [if_pos one, feed_cons [] (step_ascii one), back rfl]
    rfl
  · rw [if_neg one]
    by_cases two : code < 0x800
    · have starts := start_two (show 0xC2 ≤ 0xC0 + code / 64 ∧ 0xC0 + code / 64 ≤ 0xDF by omega)
      rw [if_pos two, feed_cons _ (step_start (by omega) starts),
        feed_cons [] (step_last (by omega)), back (by omega)]
      rfl
    · rw [if_neg two]
      by_cases three : code < 0x10000
      -- After some first octets the second one has a narrower range.
      · have starts := start_three
          (show 0xE0 ≤ 0xE0 + code / 4096 ∧ 0xE0 + code / 4096 ≤ 0xEF by omega)
        have second : (if 0xE0 + code / 4096 = 0xE0 then 0xA0 else 0x80) ≤ 0x80 + code / 64 % 64 ∧
            0x80 + code / 64 % 64 ≤ if 0xE0 + code / 4096 = 0xED then 0x9F else 0xBF := by
          constructor
          · split <;> omega
          · split <;> omega
        rw [if_pos three, feed_cons _ (step_start (by omega) starts),
          feed_cons _ (step_middle second (by omega)), feed_cons [] (step_last (by omega)),
          back (by omega)]
        rfl
      · have starts := start_four
          (show 0xF0 ≤ 0xF0 + code / 262144 ∧ 0xF0 + code / 262144 ≤ 0xF4 by omega)
        have second : (if 0xF0 + code / 262144 = 0xF0 then 0x90 else 0x80) ≤
              0x80 + code / 4096 % 64 ∧
            0x80 + code / 4096 % 64 ≤ if 0xF0 + code / 262144 = 0xF4 then 0x8F else 0xBF := by
          constructor
          · split <;> omega
          · split <;> omega
        rw [if_neg three, feed_cons _ (step_start (by omega) starts),
          feed_cons _ (step_middle second (by omega)),
          feed_cons _ (step_middle (by omega) (by omega)), feed_cons [] (step_last (by omega)),
          back (by omega)]
        rfl

/-- What a code is encoded in is the code itself, if it is one of ASCII, or lies outside of ASCII, and
is an octet if the code is one of a character. -/
theorem of_mem_encode {code octet : Nat} (found : octet ∈ encode code) :
    octet = code ∧ code < 0x80 ∨ 0x80 ≤ octet ∧ (code < 0x110000 → octet < 0x100) := by
  unfold encode at found
  split at found
  · next ascii => exact .inl ⟨List.mem_singleton.1 found, ascii⟩
  · right
    split at found
    · simp only [List.mem_cons, List.not_mem_nil, or_false] at found
      omega
    · split at found
      · simp only [List.mem_cons, List.not_mem_nil, or_false] at found
        omega
      · simp only [List.mem_cons, List.not_mem_nil, or_false] at found
        omega

/-- The octets of a character are octets. -/
theorem encode_lt (c : Char) : ∀ octet ∈ encode c.toNat, octet < 256 := by
  have valid : c.toNat < 0xD800 ∨ 0xDFFF < c.toNat ∧ c.toNat < 0x110000 := c.valid
  intro octet found
  rcases of_mem_encode found with ⟨same, ascii⟩ | ⟨-, small⟩
  · omega
  · exact small (by omega)

/-- The octets of a character are its code, if it is one of ASCII, or lie outside of ASCII. -/
theorem eq_or_le_of_mem_encode {code octet : Nat} (found : octet ∈ encode code) :
    octet = code ∨ 0x80 ≤ octet :=
  (of_mem_encode found).imp And.left And.left

end Utf8

namespace Percent

open Text

/-- The escape of an octet stands for the octet. -/
theorem octet_escape {octet : Nat} (small : octet < 256) :
    Piece.octet (upperHexDigit (octet / 16)) (upperHexDigit (octet % 16)) = octet := by
  have high := hexValue?_upperHexDigit (octet / 16) (by omega)
  have low := hexValue?_upperHexDigit (octet % 16) (by omega)
  simp only [Piece.octet, hexNumber, List.foldl_cons, List.foldl_nil, high, low, Option.getD_some]
  omega

/-- The escape of an octet is one piece. -/
theorem pieces_escape {octet : Nat} (small : octet < 256) (rest : Text) :
    pieces (escape octet ++ rest) =
      .escape (upperHexDigit (octet / 16)) (upperHexDigit (octet % 16)) :: pieces rest := by
  have high := hexValue?_upperHexDigit (octet / 16) (by omega)
  have low := hexValue?_upperHexDigit (octet % 16) (by omega)
  have digits : (isHex (upperHexDigit (octet / 16)) && isHex (upperHexDigit (octet % 16))) = true := by
    rw [isHex, isHex, high, low]
    rfl
  rw [escape, List.cons_append, List.cons_append, List.cons_append, List.nil_append, pieces,
    if_pos digits]

/-- The escapes of octets feed them to the decoder, unless they are kept. -/
theorem decodeFrom_escapes {keeps : Nat → Bool} {octets : List Nat}
    (small : ∀ octet ∈ octets, octet < 256) (free : ∀ octet ∈ octets, keeps octet = false)
    (state : Utf8.State) (rest : Text) :
    decodeFrom keeps state (pieces (octets.flatMap escape ++ rest)) =
      (Utf8.feed state octets).1 ++ decodeFrom keeps (Utf8.feed state octets).2 (pieces rest) := by
  induction octets generalizing state with
  | nil => rfl
  | cons octet octets ih =>
    have one := small octet (List.mem_cons_self ..)
    have others := ih (fun other found => small other (List.mem_cons_of_mem _ found))
      fun other found => free other (List.mem_cons_of_mem _ found)
    have fed := free octet (List.mem_cons_self ..)
    rcases stepped : Utf8.step state octet with ⟨text, next⟩
    rw [List.flatMap_cons, List.append_assoc, pieces_escape one, decodeFrom, octet_escape one,
      if_neg (by simp [fed]), stepped, Utf8.feed_cons octets stepped, List.append_assoc, ← others]

/-- An unreserved character is a piece by itself. -/
theorem pieces_plain {c : Char} (plain : c ≠ '%') (rest : Text) :
    pieces (c :: rest) = .plain c :: pieces rest := by
  rw [pieces]
  intro high low later same
  exact absurd same plain

/-- A character of a component is decoded to itself, unless an octet of it is kept. -/
theorem decodeFrom_encodeChar {keeps : Nat → Bool} {c : Char}
    (free : ∀ octet ∈ Utf8.encode c.toNat, keeps octet = false) (rest : Text) :
    decodeFrom keeps .idle (pieces (encodeChar c ++ rest)) =
      c :: decodeFrom keeps .idle (pieces rest) := by
  unfold encodeChar
  by_cases unreserved : isUnreserved c = true
  · have plain : c ≠ '%' := by
      rintro rfl
      exact absurd unreserved (by decide)
    rw [if_pos unreserved, List.singleton_append, pieces_plain plain, decodeFrom]
    rfl
  · rw [if_neg unreserved, decodeFrom_escapes (Utf8.encode_lt c) free, Utf8.feed_encode]
    rfl

/-- A component is decoded to its text, whatever follows it. -/
theorem decode_encode_append (text rest : Text) :
    decode (encode text ++ rest) = text ++ decode rest := by
  induction text with
  | nil => rfl
  | cons c text ih =>
    have first := decodeFrom_encodeChar (c := c) (fun _ _ => rfl) (encode text ++ rest)
    rw [encode, List.flatMap_cons, List.append_assoc]
    exact first.trans (congrArg (c :: ·) ih)

/-- Decoding a component gives its text. -/
theorem decode_encode (text : Text) : decode (encode text) = text := by
  have back := decode_encode_append text []
  rw [List.append_nil] at back
  exact back.trans (List.append_nil text)

/-- A slash is decoded to itself. -/
theorem decode_slash (rest : Text) : decode ('/' :: rest) = '/' :: decode rest := by
  rw [decode, pieces_plain (by decide), decodeFrom]
  rfl

/-- A component is made of unreserved characters and of escapes, whose digits are unreserved. -/
theorem mem_encode {c : Char} {text : Text} (found : c ∈ encode text) :
    isUnreserved c = true ∨ c = '%' := by
  have digits : ∀ value < 16, isUnreserved (upperHexDigit value) = true := by decide
  obtain ⟨d, -, inside⟩ := List.mem_flatMap.1 found
  unfold encodeChar at inside
  split at inside
  · next unreserved =>
    rw [List.mem_singleton.1 inside]
    exact .inl unreserved
  · obtain ⟨octet, member, written⟩ := List.mem_flatMap.1 inside
    have small := Utf8.encode_lt d octet member
    simp only [escape, List.mem_cons, List.not_mem_nil, or_false] at written
    rcases written with rfl | rfl | rfl
    · exact .inr rfl
    · exact .inl (digits _ (by omega))
    · exact .inl (digits _ (by omega))

/-- A component holds no reserved character. -/
theorem not_mem_encode {c : Char} (reserved : isUnreserved c = false) (other : c ≠ '%')
    (text : Text) : c ∉ encode text := by
  intro found
  rcases mem_encode found with unreserved | same
  · rw [reserved] at unreserved
    exact absurd unreserved (by decide)
  · exact other same

/-- Only the empty text is encoded as the empty component. -/
theorem encode_ne_nil {text : Text} (given : text ≠ []) : encode text ≠ [] := by
  intro empty
  have back := decode_encode_append text []
  rw [empty] at back
  exact given (List.append_eq_nil_iff.1 back.symm).1

/-- Unreserved characters are encoded as themselves. -/
theorem encode_unreserved {text : Text} (unreserved : ∀ c ∈ text, isUnreserved c = true) :
    encode text = text := by
  induction text with
  | nil => rfl
  | cons c text ih =>
    have later := ih fun d found => unreserved d (List.mem_cons_of_mem _ found)
    have first : encodeChar c = [c] := if_pos (unreserved c (List.mem_cons_self ..))
    have cut : encode (c :: text) = encodeChar c ++ encode text := List.flatMap_cons ..
    rw [cut, first, later]
    rfl

/-- Components after one another with slashes between them are decoded to their texts. -/
theorem decode_join_encode (texts : List Text) :
    decode (join ['/'] (texts.map encode)) = join ['/'] texts := by
  have nothing : decode [] = [] := rfl
  induction texts with
  | nil => rfl
  | cons text texts ih =>
    cases texts with
    | nil =>
      have alone := decode_encode_append text []
      rw [nothing, List.append_nil, List.append_nil] at alone
      exact alone
    | cons second texts =>
      have one : join ['/'] ((text :: second :: texts).map encode) =
        encode text ++ '/' :: join ['/'] ((second :: texts).map encode) := by
        simp [join]
      have two : join ['/'] (text :: second :: texts) =
        text ++ '/' :: join ['/'] (second :: texts) := by
        simp [join]
      rw [one, two, decode_encode_append, decode_slash, ih]

end Percent

end RoutePattern
