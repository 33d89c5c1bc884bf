import RoutePattern.Proofs.Url.Protected

/-!
# Canonical components

Many escaped texts stand for the same octets, and one of them is canonical: it shows the octets of
unreserved characters as these characters and every other octet as an escape with digits of upper
case, and its octets are those of a text. The octets of a canonical text tell the whole of it
(`flatMap_written_octets`), and components are canonical (`isCanonical_encode`). So encoding a
decoded text gives it back exactly if it is canonical
(`decode_encode_append_and_encode_decode_eq_iff`).
-/
namespace RoutePattern

/-- The octets of a text. -/
def Utf8.octets (text : Text) : List Nat := text.flatMap fun c => encode c.toNat

namespace Percent

open Text

/-- The hexadecimal digits without the letters of lower case. -/
def upperHexDigits : List Char := "0123456789ABCDEF".toList

/-- A piece that is written in the one way that components are: a character is unreserved, and an
escape has digits of upper case and does not stand for an unreserved character. -/
def Piece.IsCanonical : Piece → Prop
  | .plain c => isUnreserved c = true
  | .escape high low => high ∈ upperHexDigits ∧ low ∈ upperHexDigits ∧
      ∀ c, isUnreserved c = true → c.toNat ≠ Piece.octet high low

/-- A text of canonical pieces that stands for the octets of a text. -/
structure IsCanonical (text : Text) : Prop where
  pieces : ∀ piece ∈ pieces text, piece.IsCanonical
  valid : ∃ other, octets text = Utf8.octets other

/-! ## Octets as they are written -/

/-- An octet as it is written in a component. -/
def written (octet : Nat) : Text :=
  if isUnreserved (Char.ofNat octet) then [Char.ofNat octet] else escape octet

/-- Unreserved characters are characters of ASCII. -/
theorem toNat_of_unreserved {c : Char} (unreserved : isUnreserved c = true) : c.toNat < 0x80 := by
  rcases Bool.or_eq_true_iff.1 unreserved with alphanum | mark
  · exact toNat_lt_of_isAlphanum alphanum
  · have ascii : ∀ c ∈ ['-', '_', '.', '!', '~', '*', '\x27', '(', ')'], c.toNat < 0x80 :=
      Text.forall_mem_iff_all.2 (by decide)
    exact ascii c (List.contains_iff_mem.1 mark)

/-- The octets of an unreserved character are its code. -/
theorem encode_of_unreserved {c : Char} (unreserved : isUnreserved c = true) :
    Utf8.encode c.toNat = [c.toNat] :=
  if_pos (toNat_of_unreserved unreserved)

/-- The octet of an unreserved character is written as the character. -/
theorem written_toNat {c : Char} (unreserved : isUnreserved c = true) : written c.toNat = [c] := by
  rw [written, Char.ofNat_toNat, if_pos unreserved]

/-- Any other octet is written as an escape. -/
theorem written_of_reserved {octet : Nat} (small : octet < 256)
    (reserved : ∀ c, isUnreserved c = true → c.toNat ≠ octet) : written octet = escape octet := by
  refine if_neg fun unreserved => reserved _ unreserved ?_
  exact toNat_ofNat (.inl (by omega))

/-- The octets of a reserved character are not those of unreserved ones. -/
theorem reserved_of_mem_encode {c : Char} (reserved : isUnreserved c = false) {octet : Nat}
    (found : octet ∈ Utf8.encode c.toNat) : ∀ d, isUnreserved d = true → d.toNat ≠ octet := by
  rintro d unreserved rfl
  rcases Utf8.eq_or_le_of_mem_encode found with same | high
  · rw [Char.toNat_inj.1 same, reserved] at unreserved
    exact absurd unreserved (by decide)
  · exact absurd (toNat_of_unreserved unreserved) (by omega)

/-- A character of a component is made of its octets as they are written. -/
theorem encodeChar_eq_flatMap_written (c : Char) :
    encodeChar c = (Utf8.encode c.toNat).flatMap written := by
  unfold encodeChar
  split
  · next unreserved =>
    rw [encode_of_unreserved unreserved, List.flatMap_singleton, written_toNat unreserved]
  · next reserved =>
    refine List.flatMap_congr fun octet found => (written_of_reserved ?_ ?_).symm
    · exact Utf8.encode_lt c octet found
    · exact reserved_of_mem_encode (Bool.eq_false_iff.2 reserved) found

/-- A component is made of the octets of its text as they are written. -/
theorem encode_eq_flatMap_written (text : Text) :
    encode text = (Utf8.octets text).flatMap written := by
  rw [encode, Utf8.octets, List.flatMap_assoc]
  exact List.flatMap_congr fun c _ => encodeChar_eq_flatMap_written c

/-! ## Canonical texts -/

/-- A digit of upper case is the digit of its value. -/
theorem upperHexDigit_hexValue? : ∀ c ∈ upperHexDigits,
    hexValue? c = some ((hexValue? c).getD 0) ∧ (hexValue? c).getD 0 < 16 ∧
      upperHexDigit ((hexValue? c).getD 0) = c := by
  rw [Text.forall_mem_iff_all]
  decide

/-- The digits of values are digits of upper case. -/
theorem upperHexDigit_mem : ∀ value < 16, upperHexDigit value ∈ upperHexDigits := by decide

/-- An escape with digits of upper case is the escape of its octet. -/
theorem escape_octet {high low : Char} (one : high ∈ upperHexDigits) (two : low ∈ upperHexDigits) :
    Piece.octet high low < 256 ∧ escape (Piece.octet high low) = ['%', high, low] := by
  obtain ⟨first, small, upper⟩ := upperHexDigit_hexValue? high one
  obtain ⟨second, less, lower⟩ := upperHexDigit_hexValue? low two
  generalize (hexValue? high).getD 0 = tens at first small upper
  generalize (hexValue? low).getD 0 = units at second less lower
  have octet : Piece.octet high low = tens * 16 + units := by
    simp only [Piece.octet, hexNumber, List.foldl_cons, List.foldl_nil, first, second,
      Option.getD_some]
    omega
  have tensBack : (tens * 16 + units) / 16 = tens := by omega
  have unitsBack : (tens * 16 + units) % 16 = units := by omega
  refine ⟨by omega, ?_⟩
  rw [octet, escape, tensBack, unitsBack, upper, lower]

/-- The octets of a canonical piece are written as the piece. -/
theorem Piece.IsCanonical.flatMap_written {piece : Piece} (canonical : piece.IsCanonical) :
    piece.octets.flatMap written = piece.text := by
  cases piece with
  | plain c =>
    rw [octets, encode_of_unreserved canonical, List.flatMap_singleton, written_toNat canonical]
    rfl
  | escape high low =>
    obtain ⟨one, two, reserved⟩ := canonical
    obtain ⟨small, same⟩ := escape_octet one two
    rw [octets, List.flatMap_singleton, written_of_reserved small reserved, same]
    rfl

/-- The octets of a text of canonical pieces are written as the text. -/
theorem flatMap_written_octets {text : Text} (canonical : ∀ piece ∈ pieces text, piece.IsCanonical) :
    (octets text).flatMap written = text := by
  calc (octets text).flatMap written
    _ = (pieces text).flatMap fun piece => piece.octets.flatMap written := List.flatMap_assoc ..
    _ = (pieces text).flatMap Piece.text :=
      List.flatMap_congr fun piece found => (canonical piece found).flatMap_written
    _ = text := flatMap_text_pieces text

/-! ## Components are canonical -/

/-- The pieces of a character of a component. -/
def charPieces (c : Char) : List Piece :=
  if isUnreserved c then [.plain c]
  else (Utf8.encode c.toNat).map fun octet =>
    .escape (upperHexDigit (octet / 16)) (upperHexDigit (octet % 16))

/-- The escapes of octets are pieces one by one. -/
theorem pieces_escapes {octets : List Nat} (small : ∀ octet ∈ octets, octet < 256) (rest : Text) :
    pieces (octets.flatMap escape ++ rest) =
      (octets.map fun octet =>
        .escape (upperHexDigit (octet / 16)) (upperHexDigit (octet % 16))) ++ pieces rest := by
  induction octets with
  | nil => rfl
  | cons octet octets ih =>
    have later := ih fun other found => small other (List.mem_cons_of_mem _ found)
    rw [List.flatMap_cons, List.append_assoc, pieces_escape (small octet (List.mem_cons_self ..)),
      later]
    rfl

/-- The pieces of a component are those of its characters. -/
theorem pieces_encode (text : Text) : pieces (encode text) = text.flatMap charPieces := by
  induction text with
  | nil => rfl
  | cons c text ih =>
    rw [encode, List.flatMap_cons, List.flatMap_cons, encodeChar, charPieces, ← ih]
    split
    · next unreserved =>
      have plain : c ≠ '%' := by
        rintro rfl
        exact absurd unreserved (by decide)
      exact pieces_plain plain _
    · exact pieces_escapes (Utf8.encode_lt c) _

/-- The pieces of a character of a component are canonical and stand for its octets. -/
theorem charPieces_isCanonical (c : Char) :
    (∀ piece ∈ charPieces c, piece.IsCanonical) ∧
      (charPieces c).flatMap Piece.octets = Utf8.encode c.toNat := by
  unfold charPieces
  split
  · next unreserved =>
    refine ⟨fun piece found => ?_, List.flatMap_singleton ..⟩
    rw [List.mem_singleton.1 found]
    exact unreserved
  · next reserved =>
    have small := Utf8.encode_lt c
    refine ⟨fun piece found => ?_, ?_⟩
    · obtain ⟨octet, member, rfl⟩ := List.mem_map.1 found
      have bound := small octet member
      refine ⟨upperHexDigit_mem _ (by omega), upperHexDigit_mem _ (by omega), ?_⟩
      rw [octet_escape bound]
      exact reserved_of_mem_encode (Bool.eq_false_iff.2 reserved) member
    · rw [List.flatMap_map]
      calc (Utf8.encode c.toNat).flatMap _
        _ = (Utf8.encode c.toNat).flatMap fun octet => [octet] :=
          List.flatMap_congr fun octet found => congrArg (fun octet => [octet])
            (octet_escape (small octet found))
        _ = Utf8.encode c.toNat := List.flatMap_singleton' _

/-- Components are canonical, and stand for the octets of their texts. -/
theorem isCanonical_encode (text : Text) : IsCanonical (encode text) := by
  refine ⟨fun piece found => ?_, text, ?_⟩
  · rw [pieces_encode] at found
    obtain ⟨c, -, member⟩ := List.mem_flatMap.1 found
    exact (charPieces_isCanonical c).1 piece member
  · rw [octets, pieces_encode, List.flatMap_assoc]
    exact List.flatMap_congr fun c _ => (charPieces_isCanonical c).2

/-- A component is decoded to its text whatever follows it, and an escaped text is the component of
what it is decoded to exactly if it is canonical. -/
theorem decode_encode_append_and_encode_decode_eq_iff :
    (∀ text rest, decode (encode text ++ rest) = text ++ decode rest) ∧
      ∀ text, encode (decode text) = text ↔ IsCanonical text := by
  refine ⟨decode_encode_append, fun text => ⟨fun same => ?_, ?_⟩⟩
  · rw [← same]
    exact isCanonical_encode (decode text)
  · rintro ⟨canonical, other, valid⟩
    have component : encode other = text := by
      rw [encode_eq_flatMap_written, ← valid, flatMap_written_octets canonical]
    rw [← component, decode_encode]

-- Lower-case digits, an escaped letter and an overlong slash are not what encoding writes.
example : encode (decode "a%c3%a9".toList) = "a%C3%A9".toList ∧
    encode (decode "%41".toList) = "A".toList ∧
    encode (decode "%C0%AF".toList) = "%EF%BF%BD%EF%BF%BD".toList := by
  decide

end Percent

end RoutePattern
