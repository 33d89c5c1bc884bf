import RoutePattern.Proofs.RoundTrip.Found
import RoutePattern.Proofs.RoundTrip.Resolved

/-!
# Lists for parameters

A route writes a list as one segment for each of its texts, whatever the modifier of the parameter
is, and the empty list as one empty segment (`Assigned.block`). The path is matched exactly if the
segments that are left of it can be cut for the items once more, and so it is wherever the modifiers
allow the lists (`test_resolve_iff`).
-/
namespace RoutePattern

/-!
## Segments of normalized paths

Normalizing a path of segments leaves a path of segments (`normalize_segments`). An empty segment at
the start of others opens an authority, which is not part of the path, and an empty segment at the
end of others is dropped. Where no segment is empty, all of them are kept
(`normalSegments_of_ne_nil`).
-/

/-- The segments of a path without an empty one at its end. -/
def closedSegments (segments : List Text) : List Text :=
  orRoot (if segments.getLast? = some [] then segments.dropLast else segments)

/-- The segments that are left of a path when it is normalized. Two slashes at its start are in
front of an authority. -/
def normalSegments : List Text → List Text
  | [] :: _ :: rest => closedSegments rest
  | segments => closedSegments segments

variable {segments : List Text} {segment : Text}

/-- No segment comes in when a path is closed, but an empty one for the root. -/
theorem mem_closedSegments (found : segment ∈ closedSegments segments) :
    segment ∈ segments ∨ segment = [] := by
  refine (mem_orRoot found).imp_left fun inside => ?_
  split at inside
  · exact List.dropLast_subset _ inside
  · exact inside

/-- No segment comes in when a path is normalized, but an empty one for the root. -/
theorem mem_normalSegments (found : segment ∈ normalSegments segments) :
    segment ∈ segments ∨ segment = [] := by
  unfold normalSegments at found
  split at found
  · refine (mem_closedSegments found).imp_left fun inside => ?_
    exact List.mem_cons_of_mem _ (List.mem_cons_of_mem _ inside)
  · exact mem_closedSegments found

/-- Without segments a path is normalized to the root, like the root itself. -/
theorem normalSegments_orRoot (segments : List Text) :
    normalSegments (orRoot segments) = normalSegments segments := by
  cases segments <;> rfl

/-- Segments of which none is empty stay as they are. -/
theorem normalSegments_of_ne_nil (full : ∀ segment ∈ segments, segment ≠ []) :
    normalSegments segments = orRoot segments := by
  have last : segments.getLast? ≠ some [] :=
    fun empty => full [] (List.mem_of_getLast? empty) rfl
  unfold normalSegments
  split
  · exact absurd rfl (full [] (List.mem_cons_self ..))
  · rw [closedSegments, if_neg last]

/-! ## Normalizing -/

/-- Normalizing the path of a URL closes its segments. -/
theorem normalizePath_slashed (slashless : ∀ segment ∈ segments, '/' ∉ segment) :
    normalizePath (slashed segments) = slashed (closedSegments segments) := by
  rcases List.eq_nil_or_concat segments with rfl | ⟨front, last, rfl⟩
  · decide
  rw [List.concat_eq_append] at slashless ⊢
  have text : slashed (front ++ [last]) = slashed front ++ '/' :: last := by simp
  rw [closedSegments, List.getLast?_concat, List.dropLast_concat]
  by_cases empty : last = []
  · subst empty
    rw [if_pos rfl, text]
    cases front with
    | nil => decide
    | cons first front => exact normalizePath_concat_slash rfl
  · have given : orRoot (front ++ [last]) = front ++ [last] := by
      rw [orRoot, if_neg (by simp)]
    have start : (slashed (front ++ [last])).head? = some '/' := by
      cases front <;> rfl
    have stop : (slashed (front ++ [last])).getLast? ≠ some '/' := by
      have inside : '/' ∉ last := slashless last (by simp)
      rw [text, List.append_cons, List.getLast?_append_of_ne_nil _ empty]
      exact fun slash => inside (List.mem_of_getLast? slash)
    rw [if_neg (by simpa using empty), given]
    exact normalizePath_eq_self_iff.2 ⟨start, fun slash => absurd slash stop⟩

/-- Segments without delimiters are all part of the path of a URL. -/
theorem takeWhile_inPath_slashed (free : ∀ segment ∈ segments, ∀ c ∈ pathBreaks, c ∉ segment) :
    (slashed segments).takeWhile Parts.inPath = slashed segments := by
  apply List.takeWhile_eq_self_iff.2
  intro d found
  obtain ⟨segment, member, inside⟩ := List.mem_flatMap.1 found
  rcases List.mem_cons.1 inside with rfl | inside
  · decide
  · exact (inUrl_of_not_mem_pathBreaks fun broken => free segment member d broken inside).2

/-- The segment after an empty one is an authority. -/
theorem path_slashed_double {authority : Text} {rest : List Text}
    (host : ∀ c ∈ pathBreaks, c ∉ authority)
    (free : ∀ segment ∈ rest, ∀ c ∈ pathBreaks, c ∉ segment) :
    (Parts.read (slashed ([] :: authority :: rest))).path = slashed rest := by
  have stops : ∀ c ∈ (slashed rest).head?, Parts.inAuthority c = false := by
    intro c found
    rw [(atSegment_slashed rest).head c found]
    decide
  have inside : ∀ d ∈ authority, Parts.inAuthority d = true :=
    fun d found => (inUrl_of_not_mem_pathBreaks fun broken => host d broken found).1
  have cut : (authority ++ slashed rest).dropWhile Parts.inAuthority = slashed rest := by
    have both := Text.span_append inside stops
    rw [List.span_eq_takeWhile_dropWhile] at both
    exact congrArg Prod.snd both
  rw [slashed_cons, slashed_cons, List.nil_append, path_read_double, cut,
    takeWhile_inPath_slashed free]

/-- A path of segments is normalized to its normal segments. -/
theorem normalize_segments (given : segments ≠ [])
    (free : ∀ segment ∈ segments, ∀ c ∈ pathBreaks, c ∉ segment) :
    normalize (slashed segments) = slashed (normalSegments segments) := by
  have slashless : ∀ segment ∈ segments, '/' ∉ segment :=
    fun segment found => free segment found '/' (by decide)
  have result : normalize (slashed segments) =
      normalizePath (Parts.read (slashed segments)).path := by
    obtain ⟨first, rest, rfl⟩ := List.exists_cons_of_ne_nil given
    rfl
  rw [result]
  unfold normalSegments
  split
  · next authority rest =>
    have later : ∀ segment ∈ rest, segment ∈ [] :: authority :: rest :=
      fun segment found => List.mem_cons_of_mem _ (List.mem_cons_of_mem _ found)
    rw [path_slashed_double (free authority (by simp)) fun segment found =>
      free segment (later segment found)]
    exact normalizePath_slashed fun segment found => slashless segment (later segment found)
  · next single =>
    have whole := takeWhile_inPath_slashed free
    obtain ⟨first, rest, rfl⟩ := List.exists_cons_of_ne_nil given
    have alone : ¬ ['/', '/'] <+: '/' :: (first ++ slashed rest) := by
      rw [two_prefix_cons_iff]
      cases first with
      | nil =>
        cases rest with
        | nil => simp
        | cons second rest => exact (single second rest rfl).elim
      | cons c first =>
        intro slash
        obtain rfl : c = '/' := Option.some.inj slash
        exact slashless _ (List.mem_cons_self ..) (List.mem_cons_self ..)
    rw [slashed_cons] at whole ⊢
    rw [path_read_single alone, whole]
    exact normalizePath_slashed slashless

-- The empty segment in front hides the segment after it.
example : normalize (slashed [[], ['a'], ['b']]) = slashed [['b']] := by decide

/-! ## Lists as blocks of segments -/

open Regex

namespace Assigned

/-- No text of the value is empty, and it is no number. -/
def IsFull : Assigned → Prop
  | absent => True
  | one text => text ≠ []
  | several texts => ∀ text ∈ texts, text ≠ []
  | number _ => False

variable {value : Assigned}

/-- Only the empty list is written as an empty segment. -/
theorem IsFull.ne_nil (full : value.IsFull) (given : value ≠ .several []) :
    ∀ segment ∈ value.block, segment ≠ [] := by
  intro segment found
  rw [block_eq given] at found
  obtain ⟨text, member, rfl⟩ := List.mem_map.1 found
  apply Percent.encode_ne_nil
  cases value with
  | absent => exact absurd member List.not_mem_nil
  | one value =>
    rw [List.mem_singleton.1 member]
    exact full
  | several values => exact full text member
  | number n => exact full.elim

/-- No segment of a value breaks the path. -/
theorem not_mem_block {segment : Text} (found : segment ∈ value.block) :
    ∀ c ∈ pathBreaks, c ∉ segment := by
  intro c broken
  unfold block at found
  split at found
  · rw [List.mem_singleton.1 found]
    exact List.not_mem_nil
  · obtain ⟨text, -, rfl⟩ := List.mem_map.1 found
    exact Percent.not_mem_encode_of_break broken text

end Assigned

namespace SegmentItem

/-- A parameter that takes texts, and a value for it of texts that are not empty. -/
def IsFilled (assigned : Text → Assigned) : SegmentItem → Prop
  | literal _ => True
  | parameter kind name => kind.isInteger = false ∧ (assigned name).IsFull

/-- A parameter whose modifier allows the texts of its value. The empty list is no value. -/
def IsCounted (assigned : Text → Assigned) : SegmentItem → Prop
  | literal _ => True
  | parameter kind name =>
    assigned name ≠ .several [] ∧ kind.modifier.Allows (assigned name).texts.length

variable {item : SegmentItem} {assigned : Text → Assigned} {options : Options}

/-- A value of texts that are not empty can be written. -/
theorem IsFilled.isWritable (filled : item.IsFilled assigned) : item.IsWritable assigned := by
  cases item with
  | literal text => trivial
  | parameter kind name =>
    obtain ⟨-, full⟩ := filled
    show (assigned name).IsWritable
    cases value : assigned name with
    | absent => trivial
    | one text =>
      rw [value] at full
      exact full
    | several texts => trivial
    | number n =>
      rw [value] at full
      exact full.elim

/-- No segment of an item breaks the path. -/
theorem not_mem_listed (readable : item.Readable) (path : item.IsPath) {segment : Text}
    (found : segment ∈ item.listed assigned) : ∀ c ∈ pathBreaks, c ∉ segment := by
  cases item with
  | literal text =>
    have alone : segment ∈ (literal text).written fun _ => .absent := found
    have suited : (literal text).Suited fun _ => .absent := trivial
    exact (mem_written readable path suited alone).2
  | parameter kind name => exact Assigned.not_mem_block found

/-- Where the modifier allows the texts of a value, no segment of the item is empty. -/
theorem ne_nil_of_mem_listed (readable : item.Readable) (filled : item.IsFilled assigned)
    (counted : item.IsCounted assigned) : ∀ segment ∈ item.listed assigned, segment ≠ [] := by
  cases item with
  | literal text =>
    intro segment found
    rw [List.mem_singleton.1 found]
    exact readable.1
  | parameter kind name => exact filled.2.ne_nil counted.1

/-- Where the modifier allows the texts of a value, its segments fit the item. -/
theorem fits_listed (readable : item.Readable) (filled : item.IsFilled assigned)
    (counted : item.IsCounted assigned) : item.Fits options (item.listed assigned) := by
  have full := ne_nil_of_mem_listed readable filled counted
  cases item with
  | literal text => exact ⟨text, rfl, sameText_refl text⟩
  | parameter kind name =>
    have count : (assigned name).block.length = (assigned name).texts.length := by
      rw [Assigned.block_eq counted.1, List.length_map]
    refine ⟨?_, fun segment found => ?_⟩
    · rw [listed, count]
      exact counted.2
    · have slashless : '/' ∉ segment := Assigned.not_mem_block found '/' (by decide)
      exact (kind.takes_iff filled.1 slashless).2 (full segment found)

end SegmentItem

/-! ## Routes -/

section Routes

variable {items : List SegmentItem} {assigned : Text → Assigned} {route : Route}

/-- A route matches segments exactly if what is left of them in a normalized path can be cut into
blocks that fit its items, and a rest that the options allow. -/
theorem test_segments_iff (readable : ∀ item ∈ items, item.Readable) {source : Text}
    (compiled : route.compiled =
      ⟨itemsProgram route.settings.options source items, items.filterMap SegmentItem.key?⟩)
    {segments : List Text} (given : segments ≠ [])
    (free : ∀ segment ∈ segments, ∀ c ∈ pathBreaks, c ∉ segment) :
    route.test (slashed segments) = true ↔
      ∃ blocks left, List.Forall₂ (SegmentItem.Fits route.settings.options) items blocks ∧
        normalSegments segments = blocks.flatten ++ left ∧
        tailAccepts route.settings.options left = true := by
  have whole : ∀ segment ∈ normalSegments segments, IsSegment segment := by
    intro segment found
    rcases mem_normalSegments found with inside | rfl
    · exact ⟨free segment inside '/' (by decide), free segment inside '\n' (by decide)⟩
    · exact ⟨List.not_mem_nil, List.not_mem_nil⟩
  have groups := congrArg Option.isSome
    (matchStart_items route.settings.options readable source whole)
  rw [Option.isSome_map, Option.isSome_map] at groups
  rw [← choose_isSome_iff, Route.test, Route.find, compiled, normalize_segments given free,
    Program.find_eq_matchStart (lists_itemsExpr items), groups]

/-- Where the modifiers allow the counts of the texts, the segments are cut for the items as they
were written, and nothing but the root of an empty row is left. -/
theorem exists_cut_of_counted (options : Options) (readable : ∀ item ∈ items, item.Readable)
    (filled : ∀ item ∈ items, item.IsFilled assigned)
    (counted : ∀ item ∈ items, item.IsCounted assigned) :
    ∃ blocks left, List.Forall₂ (SegmentItem.Fits options) items blocks ∧
      normalSegments (items.flatMap (SegmentItem.listed assigned)) = blocks.flatten ++ left ∧
      (left = [] ∨ left = [[]]) := by
  have fits : List.Forall₂ (SegmentItem.Fits options) items
      (items.map (SegmentItem.listed assigned)) := by
    rw [List.forall₂_map_right_iff, List.forall₂_same]
    exact fun item member =>
      SegmentItem.fits_listed (readable item member) (filled item member) (counted item member)
  have full : ∀ segment ∈ items.flatMap (SegmentItem.listed assigned), segment ≠ [] := by
    intro segment found
    obtain ⟨item, member, inside⟩ := List.mem_flatMap.1 found
    exact SegmentItem.ne_nil_of_mem_listed (readable item member) (filled item member)
      (counted item member) segment inside
  rw [normalSegments_of_ne_nil full, List.flatMap_def]
  cases empty : (items.map (SegmentItem.listed assigned)).flatten with
  | nil =>
    refine ⟨_, [[]], fits, ?_, .inr rfl⟩
    rw [empty]
    rfl
  | cons segment segments =>
    refine ⟨_, [], fits, ?_, .inl rfl⟩
    rw [empty, List.append_nil]
    rfl

end Routes

/-- A route of literals and parameters matches the path that it resolves texts and lists of texts to
exactly if the segments that are left of them can be cut for its items once more. It does so
wherever the modifiers allow the counts of the texts, and the path is resolved unless a parameter
that needs a value has none. -/
theorem test_resolve_iff {items : List SegmentItem} {assigned : Text → Assigned}
    {entries : List (Datum × Datum)} (readable : ∀ item ∈ items, item.Readable)
    (path : ∀ item ∈ items, item.IsPath) (filled : ∀ item ∈ items, item.IsFilled assigned)
    (looked : ∀ kind name, .parameter kind name ∈ items →
      Datum.lookup entries name = (assigned name).given) (name : Text) :
    ∃ route,
      Route.make (.pattern (items.flatMap SegmentItem.text)) Settings.standard name = .ok route ∧
      (∀ needed ∈ items.findSome? (SegmentItem.missing? assigned),
        route.resolve (.dict entries) .null [] = .error (.missingValue needed route.name)) ∧
      (items.findSome? (SegmentItem.missing? assigned) = none → ∃ resolved,
        resolved = slashed (orRoot (items.flatMap (SegmentItem.listed assigned))) ∧
        route.resolve (.dict entries) .null [] = .ok resolved ∧
        (route.test resolved = true ↔ ∃ blocks left,
          List.Forall₂ (SegmentItem.Fits Settings.standard.options) items blocks ∧
          normalSegments (items.flatMap (SegmentItem.listed assigned)) = blocks.flatten ++ left ∧
          (left = [] ∨ left = [[]])) ∧
        ((∀ item ∈ items, item.IsCounted assigned) → route.test resolved = true)) := by
  have known : ∀ item ∈ items,
      item.Known (Converters.extended Settings.standard.options.converters) := known_of_plain rfl
  obtain ⟨route, source, made, pattern, settings, compiled⟩ := make_readable readable known name
  rw [← settings] at known compiled
  have written := resolve_listed readable known pattern
    (fun item found => (filled item found).isWritable) looked .null []
  rw [writeUrl_path] at written
  have free : ∀ segment ∈ orRoot (items.flatMap (SegmentItem.listed assigned)),
      ∀ c ∈ pathBreaks, c ∉ segment := by
    intro segment found
    rcases mem_orRoot found with inside | rfl
    · obtain ⟨item, member, inside⟩ := List.mem_flatMap.1 inside
      exact SegmentItem.not_mem_listed (readable item member) (path item member) inside
    · exact fun _ _ => List.not_mem_nil
  have matched := test_segments_iff readable compiled (orRoot_ne_nil _) free
  have accepts (left : List Text) :
      tailAccepts Settings.standard.options left = true ↔ left = [] ∨ left = [[]] := by
    simp [tailAccepts, Settings.options, Settings.standard, Datum.isTrue]
  simp only [normalSegments_orRoot, settings, accepts] at matched
  refine ⟨route, made, fun needed found => ?_, fun none => ?_⟩
  · rw [written, Option.mem_def.1 found]
    rfl
  · rw [none] at written
    refine ⟨_, rfl, written, matched, fun counted => ?_⟩
    exact matched.2 (exists_cut_of_counted _ readable filled counted)

/-- The items of a pattern with one parameter of one segment. -/
def tagItems : List SegmentItem := [.literal "tags".toList, .parameter (.colon .once) "tag".toList]

/-- Two texts for a parameter of one segment are written as a path that is not matched. -/
theorem test_resolve_iff_tag :
    ∃ route, Route.make (.pattern "/tags/:tag".toList) Settings.standard [] = .ok route ∧
      route.resolve (.dict [(.text "tag".toList, .list [.text "x".toList, .text "y".toList])])
        .null [] = .ok "/tags/x/y".toList ∧
      route.test "/tags/x/y".toList = false := by
  have readable : ∀ item ∈ tagItems, item.Readable := by
    simp only [tagItems, List.forall_mem_cons]
    exact ⟨⟨by decide, Text.forall_mem_iff_all.2 (by decide)⟩,
      ⟨by decide, Text.forall_mem_iff_all.2 (by decide)⟩, by simp⟩
  have filled : ∀ item ∈ tagItems,
      item.IsFilled fun _ => .several ["x".toList, "y".toList] := by
    simp only [tagItems, List.forall_mem_cons]
    exact ⟨trivial, ⟨rfl, show ∀ text ∈ ["x".toList, "y".toList], text ≠ [] by decide⟩, by simp⟩
  have looked : ∀ kind name, .parameter kind name ∈ tagItems →
      Datum.lookup [(.text "tag".toList, .list [.text "x".toList, .text "y".toList])] name =
        (Assigned.several ["x".toList, "y".toList]).given := by
    intro kind name found
    obtain ⟨rfl, rfl⟩ : kind = .colon .once ∧ name = "tag".toList := by
      simpa [tagItems] using found
    rfl
  obtain ⟨route, made, -, given⟩ := test_resolve_iff readable (by decide) filled looked []
  obtain ⟨resolved, same, written, matched, -⟩ := given rfl
  obtain rfl : resolved = "/tags/x/y".toList := same.trans (by decide)
  refine ⟨route, made, written, eq_false_of_ne_true fun found => ?_⟩
  obtain ⟨blocks, left, fits, cut, rest⟩ := matched.1 found
  have count : blocks.flatten.length = 2 := (paired_of_fits fits).length_flatten (by decide)
  rcases rest with rfl | rfl
  · have three := congrArg List.length cut
    rw [List.append_nil, count] at three
    exact absurd three (by decide)
  · have last := congrArg List.getLast? cut
    rw [List.getLast?_concat] at last
    exact absurd last (by decide)

end RoutePattern
