import RoutePattern.Proofs.RoundTrip.Query
import RoutePattern.Proofs.Url.Protected

/-!
# Fragments of resolved paths

A fragment is written behind a path as it is, and it is read up to its first number sign from the
path that has been decoded as a whole (`Route.fragmentPart_written`). Decoding a URL leaves a text as
it is exactly if the text escapes nothing but delimiters (`Percent.decodeUri_eq_self_iff`). So a
fragment comes back as it was given exactly if it holds no number sign and no other escape
(`params_resolve_fragment_iff`).
-/
namespace RoutePattern

open Percent

/-! ## Texts that decoding a URL leaves as they are -/

namespace Percent

open Text

/-- All escapes in a text are escapes of delimiters. -/
def EscapesOnlyDelimiters (text : Text) : Prop :=
  ∀ high low, isHex high = true → isHex low = true → ['%', high, low] <:+: text →
    isDelimiter (Piece.octet high low) = true

/-- A piece has at least one character, and the escape of a delimiter has two more. -/
theorem length_le_flatMap_text (parts : List Piece) :
    parts.length + 2 * parts.countP Piece.isKept ≤ (parts.flatMap Piece.text).length := by
  induction parts with
  | nil => exact Nat.le_refl _
  | cons part parts ih =>
    rw [List.flatMap_cons, List.length_append, List.length_cons, List.countP_cons]
    cases part with
    | plain c =>
      simp only [Piece.text, Piece.isKept, List.length_singleton, Bool.false_eq_true, if_false]
      omega
    | escape high low =>
      simp only [Piece.text, List.length_cons, List.length_nil]
      split <;> omega

/-- Pieces that have no more characters than that escape nothing but delimiters. -/
theorem isKept_of_length_le {parts : List Piece}
    (short : (parts.flatMap Piece.text).length ≤ parts.length + 2 * parts.countP Piece.isKept)
    {high low : Char} (found : .escape high low ∈ parts) :
    isDelimiter (Piece.octet high low) = true := by
  induction parts with
  | nil => exact absurd found List.not_mem_nil
  | cons part parts ih =>
    have least := length_le_flatMap_text parts
    rw [List.flatMap_cons, List.length_append, List.length_cons, List.countP_cons] at short
    rcases List.mem_cons.1 found with rfl | later
    · by_contra other
      simp only [Piece.text, Piece.isKept, other, List.length_cons, List.length_nil, if_false] at short
      omega
    · refine ih ?_ later
      cases part with
      | plain c =>
        simp only [Piece.text, Piece.isKept, List.length_singleton, Bool.false_eq_true,
          if_false] at short
        omega
      | escape high low =>
        simp only [Piece.text, List.length_cons, List.length_nil] at short
        split at short <;> omega

/-- Pieces that escape nothing but delimiters are decoded to their own text. -/
theorem decodeFrom_isDelimiter_eq {parts : List Piece}
    (kept : ∀ high low, .escape high low ∈ parts → isDelimiter (Piece.octet high low) = true) :
    decodeFrom isDelimiter .idle parts = parts.flatMap Piece.text := by
  induction parts with
  | nil => rfl
  | cons part parts ih =>
    have later := ih fun high low found => kept high low (List.mem_cons_of_mem _ found)
    cases part with
    | plain c => rw [decodeFrom, later, List.flatMap_cons]; rfl
    | escape high low =>
      rw [decodeFrom, if_pos (kept high low (List.mem_cons_self ..)), later, List.flatMap_cons]
      rfl

/-- Decoding a URL leaves exactly those texts as they are that escape nothing but delimiters. -/
theorem decodeUri_eq_self_iff {text : Text} :
    decodeUri text = text ↔ EscapesOnlyDelimiters text := by
  have written := flatMap_text_pieces text
  constructor
  · intro same high low one two inside
    refine isKept_of_length_le ?_ (escape_mem_pieces_iff.2 ⟨one, two, inside⟩)
    have whole := length_decodeFrom_isDelimiter (show Utf8.Awaits .idle from trivial) (pieces text)
    have plain := length_decodeFrom_le .idle (pieces text)
    rw [show decodeFrom isDelimiter .idle (pieces text) = text from same] at whole
    rw [written, whole]
    simp only [Utf8.flush, List.length_nil] at plain
    omega
  · intro only
    have kept : ∀ high low, .escape high low ∈ pieces text →
        isDelimiter (Piece.octet high low) = true := by
      intro high low found
      obtain ⟨one, two, inside⟩ := escape_mem_pieces_iff.1 found
      exact only high low one two inside
    rw [decodeUri, decodeFrom_isDelimiter_eq kept, written]

/-- A decoded URL is cut at a delimiter where the URL itself is cut. -/
theorem before_decodeUri {c : Char} (structural : c ∈ delimiters) (text : Text) :
    (decodeUri text).before c = decodeUri (text.before c) := by
  by_cases found : c ∈ text
  · have free := not_mem_decodeUri structural (Text.not_mem_before c text)
    conv_lhs => rw [← Text.before_append_after found, decodeUri_append_cons structural]
    exact (Text.before_append_cons free _).1
  · rw [Text.before_eq_self_iff.2 (not_mem_decodeUri structural found),
      Text.before_eq_self_iff.2 found]

end Percent

/-! ## Fragments of written paths -/

/-- A path is followed by the pairs of its query, whatever path and fragment are written with it. -/
theorem exists_pairs_of_writeUrl {query : Datum} {search : Text}
    (written : Route.writeUrl [] query [] = .ok search) :
    ∃ pairs, ∀ path fragment, Route.writeUrl path query fragment =
      .ok (path ++ (Query.write pairs ++ if fragment.isEmpty then [] else '#' :: fragment)) := by
  by_cases given : query.isTrue = true
  · cases query with
    | dict entries =>
      cases texts : Datum.entryTexts entries with
      | error refused =>
        rw [Route.writeUrl, if_pos given, Datum.writeQuery, texts] at written
        exact absurd written (by simp [bind, Except.bind])
      | ok pairs =>
        refine ⟨pairs, fun path fragment => ?_⟩
        rw [Route.writeUrl, if_pos given, Datum.writeQuery, texts, ← List.append_assoc]
        rfl
    | null | bool _ | int _ | float _ | text _ | bytes _ | list _ | tuple _ =>
      rw [Route.writeUrl, if_pos given] at written
      exact absurd written (by simp [Datum.writeQuery, bind, Except.bind])
  · refine ⟨[], fun path fragment => ?_⟩
    rw [Route.writeUrl, if_neg given, ← List.append_assoc]
    rfl

/-- A number sign stands neither in a path that is written nor in its query. -/
theorem sign_not_mem_written (texts : List Text) (pairs : List (Text × Text)) :
    '#' ∉ slashed (texts.map encode) ++ Query.write pairs := by
  have outside (text : Text) : '#' ∉ encode text := not_mem_encode (by decide) (by decide) text
  intro found
  rcases List.mem_append.1 found with path | query
  · obtain ⟨segment, member, inside⟩ := List.mem_flatMap.1 path
    obtain ⟨text, -, rfl⟩ := List.mem_map.1 member
    simp [outside] at inside
  · cases pairs with
    | nil => exact absurd query (by simp [Query.write])
    | cons pair pairs =>
      rw [Query.write, List.isEmpty_cons, if_neg Bool.false_ne_true] at query
      rcases List.mem_cons.1 query with same | joined
      · exact absurd same (by decide)
      rcases Text.mem_join joined with between | ⟨text, member, inside⟩
      · exact absurd (List.mem_singleton.1 between) (by decide)
      · obtain ⟨pair, -, rfl⟩ := List.mem_map.1 member
        simp [Query.writePair, outside] at inside

/-- A fragment is read up to its first number sign, and it is decoded with its path. -/
theorem Route.fragmentPart_written {front : Text} (free : '#' ∉ front) (fragment : Text) :
    fragmentPart (decodeUri (front ++ if fragment.isEmpty then [] else '#' :: fragment)) =
      decodeUri (fragment.before '#') := by
  have sign : '#' ∈ delimiters := by decide
  have before : '#' ∉ decodeUri front := not_mem_decodeUri sign free
  rw [fragmentPart_eq_before, fragmentText]
  cases fragment with
  | nil =>
    rw [List.isEmpty_nil, if_pos rfl, List.append_nil, Text.after_eq_nil before]
    rfl
  | cons c fragment =>
    rw [List.isEmpty_cons, if_neg Bool.false_ne_true, decodeUri_append_cons sign,
      (Text.before_append_cons before _).2, before_decodeUri sign]

/-- A route of literals and parameters gives back the fragment that a path is resolved with, up to
its first number sign and decoded, whatever query stands in front of it. It is the fragment itself
exactly if it holds no number sign and escapes nothing but delimiters. -/
theorem params_resolve_fragment_iff {items : List SegmentItem} {settings : Settings}
    {assigned : Text → Text} {entries : List (Datum × Datum)} {query : Datum} {search : Text}
    (simple : ∀ item ∈ items, item.IsSimple)
    (rooted : items = [] → ¬ (settings.options.strict = true ∧ settings.options.whole = true))
    (filled : ∀ name ∈ items.filterMap SegmentItem.name?, assigned name ≠ [] ∧
      Datum.lookup entries name = some (.text (assigned name)))
    (writable : Route.writeUrl [] query [] = .ok search) (fragment name : Text) :
    ∃ route resolved params,
      Route.make (.pattern (items.flatMap SegmentItem.text)) settings name = .ok route ∧
      route.resolve (.dict entries) query fragment = .ok resolved ∧
      route.params resolved false = .ok params ∧
      params.fragment = decodeUri (fragment.before '#') ∧
      (params.fragment = fragment ↔ '#' ∉ fragment ∧ EscapesOnlyDelimiters fragment) := by
  have known : ∀ item ∈ items, item.Known (Converters.extended settings.options.converters) :=
    fun item found => (simple item found).single.known _
  obtain ⟨route, source, made, pattern, rfl, compiled⟩ :=
    make_readable (fun item found => (simple item found).single.readable) known name
  obtain ⟨pairs, written⟩ := exists_pairs_of_writeUrl writable
  have resolved := (resolve_simple simple pattern filled query fragment).trans (written _ _)
  have after : AfterPath (Query.write pairs ++ if fragment.isEmpty then [] else '#' :: fragment) :=
    afterPath_write pairs fragment
  have matched := test_simple simple rooted (fun name found => (filled name found).1) compiled after
  have given : slashed ((contents items assigned).map encode) ++
      (Query.write pairs ++ if fragment.isEmpty then [] else '#' :: fragment) ≠ [] := by
    unfold contents
    cases items <;> simp
  obtain ⟨params, taken, -, part⟩ := Route.params_plain_ok route given matched
  have decoded : params.fragment = decodeUri (fragment.before '#') := by
    rw [part, ← List.append_assoc, Route.fragmentPart_written (sign_not_mem_written _ _)]
  refine ⟨route, _, params, made, resolved, taken, decoded, ?_⟩
  rw [decoded]
  -- The fragment is cut before it is decoded, and decoding yields no number sign.
  constructor
  · intro same
    have free : '#' ∉ fragment :=
      same ▸ not_mem_decodeUri (by decide) (Text.not_mem_before '#' fragment)
    rw [Text.before_eq_self_iff.2 free] at same
    exact ⟨free, decodeUri_eq_self_iff.1 same⟩
  · rintro ⟨free, only⟩
    rw [Text.before_eq_self_iff.2 free]
    exact decodeUri_eq_self_iff.2 only

/-- The items of a pattern for the pages of a document. -/
def pageItems : List SegmentItem :=
  [.literal "docs".toList, .parameter (.colon .once) "page".toList]

/-- Behind a query that escapes a number sign, the escape of a slash and a question mark come back in
a fragment, but the escape of a letter does not, and neither does what follows a number sign. -/
theorem params_resolve_fragment_iff_page :
    Route.writeUrl [] (.dict [(.text "q".toList, .text "#".toList)]) [] = .ok "?q=%23".toList ∧
    ∃ route resolved params,
      Route.make (.pattern "/docs/:page".toList) Settings.standard [] = .ok route ∧
      route.resolve (.dict [(.text "page".toList, .text "x#y".toList)])
        (.dict [(.text "q".toList, .text "#".toList)]) "a%2F%41?b#c".toList = .ok resolved ∧
      route.params resolved false = .ok params ∧
      params.fragment = "a%2FA?b".toList := by
  have simple : ∀ item ∈ pageItems, item.IsSimple := by
    simp only [pageItems, List.forall_mem_cons]
    exact ⟨⟨by decide, Text.forall_mem_iff_all.2 (by decide)⟩,
      ⟨rfl, by decide, Text.forall_mem_iff_all.2 (by decide)⟩, by simp⟩
  have filled : ∀ name ∈ pageItems.filterMap SegmentItem.name?, "x#y".toList ≠ [] ∧
      Datum.lookup [(.text "page".toList, .text "x#y".toList)] name =
        some (.text "x#y".toList) := by
    intro name found
    obtain rfl : "page".toList = name := by simpa [pageItems, SegmentItem.name?] using found
    exact ⟨by decide, rfl⟩
  have writable : Route.writeUrl [] (.dict [(.text "q".toList, .text "#".toList)]) [] =
      .ok "?q=%23".toList := rfl
  obtain ⟨route, resolved, params, made, written, parsed, fragment, -⟩ :=
    params_resolve_fragment_iff simple (fun none => absurd none (by decide)) filled writable
      "a%2F%41?b#c".toList []
  exact ⟨writable, route, resolved, params, made, written, parsed, fragment.trans (by decide)⟩

end RoutePattern
