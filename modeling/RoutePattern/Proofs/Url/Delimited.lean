import RoutePattern.Proofs.Decoder

/-!
# Decoding between delimiters

A delimiter is a piece by itself, so a URL is decoded up to it and from there on
(`decodeUri_append_cons`), and the decoder makes no delimiter of its own (`not_mem_decodeUri`). So
cutting a decoded URL at a delimiter gives the decoded pieces of the URL (`split_decodeUri`).
-/
namespace RoutePattern

namespace Percent

open Text

/-! ## Cutting at a delimiter -/

/-- A plain character ends what comes before it. -/
theorem decodeFrom_append_plain (keeps : Nat → Bool) (state : Utf8.State) (front rest : List Piece)
    (c : Char) :
    decodeFrom keeps state (front ++ .plain c :: rest) =
      decodeFrom keeps state front ++ c :: decodeFrom keeps .idle rest := by
  induction front generalizing state with
  | nil => rfl
  | cons piece front ih =>
    cases piece with
    | plain d => simp only [List.cons_append, decodeFrom, ih, List.append_assoc]
    | escape high low =>
      simp only [List.cons_append, decodeFrom]
      split
      · simp only [ih, List.append_assoc]
      · simp only [ih, List.append_assoc]

/-- A URL is decoded up to a delimiter, and from there on. -/
theorem decodeUri_append_cons {c : Char} (structural : c ∈ delimiters) (front rest : Text) :
    decodeUri (front ++ c :: rest) = decodeUri front ++ c :: decodeUri rest := by
  have plain : c ≠ '%' := by
    rintro rfl
    exact absurd structural (by decide)
  have stop : ∀ d ∈ (c :: rest).head?, isHex d = false := by
    intro d first
    obtain rfl := Option.some.inj first
    exact isHex_of_delimiter c structural
  rw [decodeUri, pieces_append stop, pieces_plain plain, decodeFrom_append_plain]
  rfl

/-- A character outside of ASCII is no delimiter, and neither is what stands for an invalid code. -/
theorem ofNat_not_mem_delimiters {code : Nat} (high : 0x80 ≤ code) :
    Char.ofNat code ∉ delimiters := by
  intro structural
  have ascii := toNat_of_delimiter _ structural
  by_cases valid : code.isValidChar
  · rw [Text.toNat_ofNat valid] at ascii
    omega
  · have zero : Char.ofNat code = '\x00' := by
      rw [Char.ofNat, dif_neg valid]
      rfl
    rw [zero] at structural
    exact absurd structural (by decide)

/-- What an unfinished character leaves is no delimiter. -/
theorem not_mem_flush {c : Char} (structural : c ∈ delimiters) (state : Utf8.State) :
    c ∉ Utf8.flush state := by
  intro found
  cases state with
  | idle => exact absurd found List.not_mem_nil
  | owing bits owed low high =>
    rw [List.mem_singleton.1 found] at structural
    exact absurd structural (by decide)

/-- An octet that is decoded yields a delimiter only if it is the delimiter's own. -/
theorem isDelimiter_of_mem_step {state : Utf8.State} (proper : Utf8.Proper state) {octet : Nat}
    {c : Char} (structural : c ∈ delimiters) (found : c ∈ (Utf8.step state octet).1) :
    isDelimiter octet = true := by
  rcases Utf8.mem_step proper found with ⟨ascii, rfl⟩ | rfl | ⟨code, high, rfl⟩
  · exact isDelimiter_iff.2 ⟨_, structural, Text.toNat_ofNat (.inl (by omega))⟩
  · exact absurd structural (by decide)
  · exact absurd structural (ofNat_not_mem_delimiters high)

/-- The delimiters of decoded pieces stand among the plain ones. -/
theorem plain_mem_of_mem_decodeFrom {c : Char} (structural : c ∈ delimiters) {state : Utf8.State}
    (proper : Utf8.Proper state) {parts : List Piece}
    (digits : ∀ high low, .escape high low ∈ parts → isHex high = true ∧ isHex low = true)
    (found : c ∈ decodeFrom isDelimiter state parts) : .plain c ∈ parts := by
  have digitless : isHex c = false := isHex_of_delimiter c structural
  induction parts generalizing state with
  | nil => exact absurd found (not_mem_flush structural state)
  | cons piece parts ih =>
    have later {next : Utf8.State} (proper : Utf8.Proper next)
        (found : c ∈ decodeFrom isDelimiter next parts) : .plain c ∈ piece :: parts :=
      List.mem_cons_of_mem _ (ih proper
        (fun high low member => digits high low (List.mem_cons_of_mem _ member)) found)
    cases piece with
    | plain d =>
      rcases List.mem_append.1 found with owed | found
      · exact absurd owed (not_mem_flush structural state)
      · rcases List.mem_cons.1 found with rfl | found
        · exact List.mem_cons_self ..
        · exact later Utf8.proper_idle found
    | escape high low =>
      obtain ⟨one, two⟩ := digits high low (List.mem_cons_self ..)
      simp only [decodeFrom] at found
      split at found
      · rcases List.mem_append.1 found with found | found
        · rcases List.mem_append.1 found with owed | written
          · exact absurd owed (not_mem_flush structural state)
          · -- An escape that is kept is written in a percent sign and two digits.
            simp only [Piece.text, List.mem_cons, List.not_mem_nil, or_false] at written
            rcases written with rfl | rfl | rfl
            · exact absurd structural (by decide)
            · exact absurd (one.symm.trans digitless) (by decide)
            · exact absurd (two.symm.trans digitless) (by decide)
        · exact later Utf8.proper_idle found
      · next fed =>
        rcases List.mem_append.1 found with yielded | found
        · exact absurd (isDelimiter_of_mem_step proper structural yielded) fed
        · exact later (Utf8.proper_step proper _) found

/-- Decoding a URL adds no delimiter. -/
theorem not_mem_decodeUri {c : Char} (structural : c ∈ delimiters) {text : Text} (free : c ∉ text) :
    c ∉ decodeUri text := by
  intro found
  have plain := plain_mem_of_mem_decodeFrom structural Utf8.proper_idle
    (fun high low member => isHex_of_mem_pieces member) found
  exact free (mem_of_plain_mem_pieces plain)

/-- Texts that are joined by a delimiter are decoded one by one. -/
theorem decodeUri_join {c : Char} (structural : c ∈ delimiters) (texts : List Text) :
    decodeUri (join [c] texts) = join [c] (texts.map decodeUri) := by
  induction texts with
  | nil => rfl
  | cons text texts ih =>
    cases texts with
    | nil => rfl
    | cons second texts =>
      simp only [List.map_cons, join, List.append_assoc, List.singleton_append] at ih ⊢
      rw [decodeUri_append_cons structural, ih]

/-- A decoded URL is cut at a delimiter where the URL itself is cut, and its pieces are the decoded
pieces of the URL. -/
theorem split_decodeUri {delimiter : Char} (structural : delimiter ∈ delimiters) (text : Text) :
    split delimiter (decodeUri text) = (split delimiter text).map decodeUri := by
  have free : ∀ piece ∈ (split delimiter text).map decodeUri, delimiter ∉ piece := by
    intro piece found
    obtain ⟨part, member, rfl⟩ := List.mem_map.1 found
    exact not_mem_decodeUri structural (not_mem_of_mem_split member)
  have given : (split delimiter text).map decodeUri ≠ [] := by
    simpa using split_ne_nil delimiter text
  calc split delimiter (decodeUri text)
    _ = split delimiter (decodeUri (join [delimiter] (split delimiter text))) := by rw [join_split]
    _ = split delimiter (join [delimiter] ((split delimiter text).map decodeUri)) := by
      rw [decodeUri_join structural]
    _ = (split delimiter text).map decodeUri := split_join given free

/-- A character that a slash leaves unfinished, an overlong slash and an escaped one are decoded on
their own sides of the slashes of a path. -/
theorem split_decodeUri_unfinished : '/' ∈ delimiters ∧
    split '/' (decodeUri "/a%2fb%E4/%B8%AD%C0%AF/%4".toList) =
      ["".toList, "a%2fb\uFFFD".toList, "\uFFFD\uFFFD\uFFFD\uFFFD".toList, "%4".toList] := by
  refine ⟨by decide, ?_⟩
  rw [split_decodeUri (by decide)]
  decide

end Percent

end RoutePattern
