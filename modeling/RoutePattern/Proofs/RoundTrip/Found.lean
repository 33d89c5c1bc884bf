import RoutePattern.Proofs.NormalPath
import RoutePattern.Proofs.RoundTrip.Written
import RoutePattern.Proofs.Segments.Blocks
import RoutePattern.Proofs.Url.Pairs

/-!
# Written paths are found

A path is followed by a query and a fragment, each after its delimiter (`writeUrl_texts`), and is
cut out of them again when it is normalized (`normalize_slashed`). So a route finds the segments
that it has written, and captures their blocks (`find_written`).
-/
namespace RoutePattern

open Regex

/-- A text is at its end or at the delimiter of a query or a fragment. -/
def AfterPath (text : Text) : Prop := ∀ c ∈ text.head?, c = '?' ∨ c = '#'

/-- Without a query and a fragment a path stands alone. -/
theorem writeUrl_path (path : Text) : Route.writeUrl path .null [] = .ok path := by
  simp [Route.writeUrl, Datum.isTrue, pure, Except.pure, bind, Except.bind]

/-- A path is followed by a query and by a fragment that is not empty. -/
theorem writeUrl_eq (path fragment : Text) (pairs : List (Text × Text)) :
    Route.writeUrl path (.dict (pairs.map fun pair => (.text pair.1, .text pair.2))) fragment =
      .ok (path ++ (Query.write pairs ++ if fragment.isEmpty then [] else '#' :: fragment)) := by
  rw [Route.writeUrl, Datum.writeQuery_texts, ← List.append_assoc]
  cases pairs with
  | nil => rfl
  | cons pair pairs => rfl

/-- What is written behind a path is a query, a fragment, or nothing. -/
theorem afterPath_write (pairs : List (Text × Text)) (fragment : Text) :
    AfterPath (Query.write pairs ++ if fragment.isEmpty then [] else '#' :: fragment) := by
  intro c found
  cases pairs with
  | nil =>
    cases fragment with
    | nil => exact absurd found (by simp [Query.write])
    | cons d fragment =>
      obtain rfl : '#' = c := by simpa [Query.write] using found
      exact .inr rfl
  | cons pair pairs =>
    obtain rfl : '?' = c := by simpa [Query.write] using found
    exact .inl rfl

/-- A path comes first in its URL, and a delimiter comes next. -/
theorem writeUrl_texts (path fragment : Text) (pairs : List (Text × Text)) :
    ∃ rest, Route.writeUrl path (.dict (pairs.map fun pair => (.text pair.1, .text pair.2)))
        fragment = .ok (path ++ rest) ∧ AfterPath rest :=
  ⟨_, writeUrl_eq path fragment pairs, afterPath_write pairs fragment⟩

/-- The path of a URL that starts with one slash reaches up to the first delimiter. -/
theorem path_read {text rest : Text} (single : text.head? ≠ some '/')
    (inside : ∀ d ∈ text, d ≠ '?' ∧ d ≠ '#') (after : AfterPath rest) :
    (Parts.read ('/' :: text ++ rest)).path = '/' :: text := by
  have alone : ¬ ['/', '/'] <+: '/' :: (text ++ rest) := by
    rw [two_prefix_cons_iff]
    cases text with
    | nil =>
      intro slash
      rcases after '/' slash with same | same
      · exact absurd same (by decide)
      · exact absurd same (by decide)
    | cons c text => exact single
  have whole : ∀ d ∈ '/' :: text, Parts.inPath d = true := by
    intro d found
    rcases List.mem_cons.1 found with rfl | found
    · decide
    · simp [Parts.inPath, inside d found]
  have stop : rest.takeWhile Parts.inPath = [] := by
    cases rest with
    | nil => rfl
    | cons d rest =>
      have delimiter : Parts.inPath d = false := by
        rcases after d rfl with rfl | rfl <;> decide
      rw [List.takeWhile_cons_of_neg (by simp [delimiter])]
  rw [List.cons_append, path_read_single alone, ← List.cons_append,
    List.takeWhile_append_of_pos whole, stop, List.append_nil]

/-- Segments that are not empty do not end in a slash. -/
theorem getLast?_slashed {segments : List Text}
    (whole : ∀ segment ∈ segments, segment ≠ [] ∧ '/' ∉ segment) :
    (slashed segments).getLast? ≠ some '/' := by
  induction segments with
  | nil => simp
  | cons segment segments ih =>
    have first := whole segment (List.mem_cons_self ..)
    have later := ih fun other found => whole other (List.mem_cons_of_mem _ found)
    rw [slashed_cons, ← List.cons_append, List.getLast?_append]
    cases last : (slashed segments).getLast? with
    | some c =>
      rw [last] at later
      exact later
    | none =>
      obtain ⟨c, segment, rfl⟩ := List.exists_cons_of_ne_nil first.1
      rw [List.getLast?_cons_cons, Option.none_or]
      intro slash
      exact first.2 (List.mem_of_getLast? slash)

/-- The path of a URL of segments that are not empty is normalized already. -/
theorem normalize_slashed {segments : List Text} (given : segments ≠ [])
    (whole : ∀ segment ∈ segments, segment ≠ [] ∧ ∀ c ∈ pathBreaks, c ∉ segment) {rest : Text}
    (after : AfterPath rest) : normalize (slashed segments ++ rest) = slashed segments := by
  have slashless : ∀ segment ∈ segments, segment ≠ [] ∧ '/' ∉ segment :=
    fun segment found => ⟨(whole segment found).1, (whole segment found).2 '/' (by decide)⟩
  have last := getLast?_slashed slashless
  have free : ∀ d ∈ slashed segments, d ≠ '?' ∧ d ≠ '#' := by
    intro d found
    obtain ⟨segment, member, inside⟩ := List.mem_flatMap.1 found
    rcases List.mem_cons.1 inside with rfl | inside
    · decide
    · constructor
      · rintro rfl
        exact (whole segment member).2 '?' (by decide) inside
      · rintro rfl
        exact (whole segment member).2 '#' (by decide) inside
  obtain ⟨segment, segments, rfl⟩ := List.exists_cons_of_ne_nil given
  obtain ⟨full, noSlash⟩ := slashless segment (List.mem_cons_self ..)
  obtain ⟨c, segment, rfl⟩ := List.exists_cons_of_ne_nil full
  have slash : c ≠ '/' := by
    rintro rfl
    exact noSlash (List.mem_cons_self ..)
  rw [slashed_cons, List.cons_append] at last free ⊢
  have single : (c :: (segment ++ slashed segments)).head? ≠ some '/' := by simpa using slash
  have path := path_read single (fun d found => free d (List.mem_cons_of_mem _ found)) after
  rw [normalize, List.cons_append, List.isEmpty_cons, if_neg Bool.false_ne_true,
    ← List.cons_append, path]
  exact normalizePath_eq_self_iff.2 ⟨rfl, fun slash => absurd slash last⟩

/-- A match at the start of a text is the first one. -/
theorem Regex.Program.find_of_matchStart {program : Regex.Program} {text : Text} {found : Regex.Match}
    (matched : program.matchStart text = some found) : program.find text = some found := by
  cases text with
  | nil => exact matched
  | cons c rest =>
    have first : program.matchFrom [] (c :: rest) = some found := matched
    simp only [find, search, first]

section Written

variable {assigned : Text → Assigned} {items : List SegmentItem}

/-- A path with an item that may not be empty has a segment. -/
theorem written_ne_nil (suited : ∀ item ∈ items, item.Suited assigned)
    (required : ∃ item ∈ items, item.modifier.mayBeEmpty = false) :
    items.flatMap (SegmentItem.written assigned) ≠ [] := by
  obtain ⟨item, member, needed⟩ := required
  intro empty
  have none : item.written assigned = [] := List.flatMap_eq_nil_iff.1 empty item member
  cases item with
  | literal text => exact absurd none (by simp [SegmentItem.written])
  | parameter kind name =>
    have suits : (assigned name).Suits kind := suited _ member
    have count : (assigned name).texts.length = 0 := by
      rw [← List.length_map (f := Percent.encode)]
      exact congrArg List.length none
    have optional := ((Modifier.allows_iff _ _).1 suits.allows).1 count
    rw [show kind.modifier.mayBeEmpty = false from needed] at optional
    exact Bool.false_ne_true optional

/-- A route finds the path that is written for values, whatever comes after it, and captures the
blocks of its items. -/
theorem find_written (options : Options) (readable : ∀ item ∈ items, item.Readable)
    (path : ∀ item ∈ items, item.IsPath) (suited : ∀ item ∈ items, item.Suited assigned)
    (required : ∃ item ∈ items, item.modifier.mayBeEmpty = false)
    (few : items.countP SegmentItem.isModified ≤ 1) (source : Text) {rest : Text}
    (after : AfterPath rest) :
    ∃ found, (itemsProgram options source items).find
        (normalize (slashed (items.flatMap (SegmentItem.written assigned)) ++ rest)) = some found ∧
      found.captures = itemCaptures items (items.map (SegmentItem.written assigned)) := by
  have whole : ∀ segment ∈ items.flatMap (SegmentItem.written assigned),
      segment ≠ [] ∧ ∀ c ∈ pathBreaks, c ∉ segment := by
    intro segment found
    obtain ⟨item, member, inside⟩ := List.mem_flatMap.1 found
    exact SegmentItem.mem_written (readable item member) (path item member)
      (suited item member) inside
  have inner : ∀ segment ∈ items.flatMap (SegmentItem.written assigned), IsSegment segment :=
    fun segment found => ⟨(whole segment found).2 '/' (by decide),
      (whole segment found).2 '\n' (by decide)⟩
  have fits : List.Forall₂ (SegmentItem.Fits options) items
      (items.map (SegmentItem.written assigned)) := by
    rw [List.forall₂_map_right_iff, List.forall₂_same]
    exact fun item member => SegmentItem.fits_written (suited item member)
  have chosen := choose_flatten fits few
  rw [← List.flatMap_def] at chosen
  obtain ⟨found, matched, captures⟩ := matchStart_chosen readable source inner chosen
  refine ⟨found, ?_, captures⟩
  rw [normalize_slashed (written_ne_nil suited required) whole after]
  exact Regex.Program.find_of_matchStart matched

end Written

end RoutePattern
