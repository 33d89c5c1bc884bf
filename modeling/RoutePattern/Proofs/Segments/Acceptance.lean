import RoutePattern.Proofs.Segments.Blocks

/-!
# The texts that a pattern of segments accepts

A pattern of literal segments and parameters with modifiers accepts the texts whose segments can be
cut into blocks, one for each item. Where at most one item has a modifier there is only one way to
cut them, and each group captures its block (`matchStart_iff_splits`).
-/
namespace RoutePattern

open Regex

namespace SegmentItem

/-- A literal segment, or a parameter that is written with a colon. -/
def IsColon : SegmentItem → Prop
  | literal _ => True
  | parameter (.colon _) _ => True
  | parameter _ _ => False

instance : DecidablePred IsColon
  | literal _ | parameter (.colon _) _ => .isTrue trivial
  | parameter (.braces _) _ | parameter .integer _ => .isFalse id

/-- An item stands for a block of segments: a literal for itself, and a parameter for as many
segments that are not empty as its modifier allows. -/
def Takes : SegmentItem → (block : List Text) → Prop
  | literal text, block => block = [text]
  | parameter kind _, block => kind.modifier.Allows block.length ∧ ∀ segment ∈ block, segment ≠ []

end SegmentItem

/-- A text is the segments of blocks, one block for each item, and perhaps a slash after them. -/
structure Splits (strict : Bool) (items : List SegmentItem) (text : Text)
    (blocks : List (List Text)) : Prop where
  slashless : ∀ segment ∈ blocks.flatten, '/' ∉ segment
  takes : List.Forall₂ SegmentItem.Takes items blocks
  written : text = slashed blocks.flatten ∨
    strict = false ∧ text = slashed blocks.flatten ++ ['/']

/-! ## Segments of a text -/

/-- A text that is empty or starts with a slash is a row of segments. -/
theorem exists_slashed {text : Text} (here : AtSegment text) :
    ∃ segments, text = slashed segments ∧ ∀ segment ∈ segments, '/' ∉ segment := by
  rcases here with rfl | ⟨rest, rfl⟩
  · exact ⟨[], rfl, by simp⟩
  · refine ⟨Text.split '/' rest, ?_, fun segment found => Text.not_mem_of_mem_split found⟩
    rw [slashed_eq_cons (Text.split_ne_nil '/' rest), Text.join_split]

/-- A row of segments is cut in only one way. -/
theorem slashed_inj {one two : List Text} (first : ∀ segment ∈ one, '/' ∉ segment)
    (second : ∀ segment ∈ two, '/' ∉ segment) (same : slashed one = slashed two) : one = two := by
  have cut (segment : Text) (segments : List Text) (slashless : '/' ∉ segment) :
      (segment ++ slashed segments).span (· != '/') = (segment, slashed segments) := by
    refine Text.span_append (Text.forall_bne_iff.2 slashless) fun c found => ?_
    rw [(atSegment_slashed segments).head c found]
    rfl
  induction one generalizing two with
  | nil =>
    cases two with
    | nil => rfl
    | cons segment two => exact absurd same (by simp)
  | cons segment one ih =>
    cases two with
    | nil => exact absurd same (by simp)
    | cons other two =>
      rw [slashed_cons, slashed_cons] at same
      have spans := congrArg (List.span (· != '/')) (List.cons.inj same).2
      rw [cut segment one (first _ (List.mem_cons_self ..)),
        cut other two (second _ (List.mem_cons_self ..))] at spans
      obtain ⟨heads, tails⟩ := Prod.mk.inj spans
      rw [heads, ih (fun other found => first other (List.mem_cons_of_mem _ found))
        (fun other found => second other (List.mem_cons_of_mem _ found)) tails]

/-- The characters of a segment are characters of the text. -/
theorem mem_slashed {segments : List Text} {segment : Text} (found : segment ∈ segments) {c : Char}
    (inside : c ∈ segment) : c ∈ slashed segments :=
  List.mem_flatMap.2 ⟨segment, found, List.mem_cons_of_mem _ inside⟩

/-- Segments of a text without line ends have none. -/
theorem isSegment_of_slashed {segments : List Text} {text : Text} (cut : text = slashed segments)
    (oneLine : '\n' ∉ text) (slashless : ∀ segment ∈ segments, '/' ∉ segment) :
    ∀ segment ∈ segments, IsSegment segment := by
  subst cut
  exact fun segment found => ⟨slashless segment found, fun inside => oneLine (mem_slashed found inside)⟩

/-! ## Blocks in a text of regular case -/

section Sensitive

variable {options : Options}

/-- With regard to case, only a text is the same text. -/
theorem sameText_iff (sensitive : options.sensitive = true) (text segment : Text) :
    sameText options text segment = true ↔ segment = text := by
  have same (one two : Nat) : sameCode options.flags one two = (one == two) := by
    simp [sameCode, Options.flags, sensitive]
  induction text generalizing segment with
  | nil => cases segment <;> simp [sameText]
  | cons c text ih =>
    cases segment with
    | nil => simp [sameText]
    | cons d segment =>
      have heads : sameCode options.flags c.toNat d.toNat = true ↔ d = c := by
        rw [same, beq_iff_eq, Char.toNat_inj, eq_comm]
      rw [sameText, Bool.and_eq_true, List.cons.injEq]
      exact and_congr heads (ih segment)

/-- A block fits an item exactly if the item stands for it. -/
theorem SegmentItem.fits_iff_takes (sensitive : options.sensitive = true) {item : SegmentItem}
    (colon : item.IsColon) {block : List Text} (slashless : ∀ segment ∈ block, '/' ∉ segment) :
    item.Fits options block ↔ item.Takes block := by
  cases item with
  | literal text =>
    constructor
    · rintro ⟨segment, rfl, same⟩
      rw [Takes, (sameText_iff sensitive text segment).1 same]
    · rintro rfl
      exact ⟨text, rfl, (sameText_iff sensitive text text).2 rfl⟩
  | parameter kind name =>
    have text : kind.isInteger = false := by
      cases kind with
      | colon modifier => rfl
      | braces modifier => rfl
      | integer => exact absurd colon id
    rw [Fits, Takes]
    exact and_congr_right fun _ => forall₂_congr fun segment found =>
      ParameterKind.takes_iff text (slashless segment found)

/-- The blocks that are chosen for a text split it. -/
theorem splits_of_choose (sensitive : options.sensitive = true) (whole : options.whole = true)
    {items : List SegmentItem} (colon : ∀ item ∈ items, item.IsColon) {segments : List Text}
    (slashless : ∀ segment ∈ segments, '/' ∉ segment) {blocks : List (List Text)}
    (chosen : choose options items segments = some blocks) :
    Splits options.strict items (slashed segments) blocks := by
  obtain ⟨fits, left, rfl, accepted⟩ := choose_sound chosen
  have inner : ∀ segment ∈ blocks.flatten, '/' ∉ segment :=
    fun segment found => slashless segment (List.mem_append_left _ found)
  refine ⟨inner, ?_, ?_⟩
  · refine List.forall₂_iff_zip.2 ⟨fits.length_eq, fun {item block} found => ?_⟩
    have members := List.of_mem_zip found
    have outer : ∀ segment ∈ block, '/' ∉ segment :=
      fun segment inside => inner segment (List.mem_flatten.2 ⟨block, members.2, inside⟩)
    exact (SegmentItem.fits_iff_takes sensitive (colon item members.1) outer).1
      ((List.forall₂_iff_zip.1 fits).2 found)
  · rw [slashed_append]
    simp only [tailAccepts, whole, Bool.not_true, Bool.false_or, Bool.or_eq_true, Bool.and_eq_true,
      Bool.not_eq_true', List.isEmpty_iff, beq_iff_eq] at accepted
    rcases accepted with rfl | ⟨lax, rfl⟩
    · exact .inl (by simp)
    · exact .inr ⟨lax, by simp⟩

/-- Blocks that split a text are left with segments that the end of the route accepts. -/
theorem Splits.segments {items : List SegmentItem} {text : Text} {blocks : List (List Text)}
    (splits : Splits options.strict items text blocks) :
    ∃ left, text = slashed (blocks.flatten ++ left) ∧ (left = [] ∨ left = [[]]) ∧
      tailAccepts options left = true := by
  rcases splits.written with rfl | ⟨lax, rfl⟩
  · exact ⟨[], by simp, .inl rfl, by simp [tailAccepts]⟩
  · exact ⟨[[]], by simp, .inr rfl, by simp [tailAccepts, lax]⟩

/-- Blocks that split a text fit the items. -/
theorem Splits.fits (sensitive : options.sensitive = true) {items : List SegmentItem}
    (colon : ∀ item ∈ items, item.IsColon) {text : Text} {blocks : List (List Text)}
    (splits : Splits options.strict items text blocks) :
    List.Forall₂ (SegmentItem.Fits options) items blocks := by
  refine List.forall₂_iff_zip.2 ⟨splits.takes.length_eq, fun {item block} found => ?_⟩
  have members := List.of_mem_zip found
  have outer : ∀ segment ∈ block, '/' ∉ segment :=
    fun segment inside => splits.slashless segment (List.mem_flatten.2 ⟨block, members.2, inside⟩)
  exact (SegmentItem.fits_iff_takes sensitive (colon item members.1) outer).2
    ((List.forall₂_iff_zip.1 splits.takes).2 found)

end Sensitive

/-! ## Matches -/

section Matches

variable {options : Options} {items : List SegmentItem}

/-- A pattern of segments matches only texts that are empty or start with a slash. -/
theorem atSegment_of_matchStart {source text : Text} (oneLine : '\n' ∉ text)
    {found : Regex.Match}
    (matched : (itemsProgram options source items).matchStart text = some found) :
    AtSegment text := by
  cases text with
  | nil => exact .inl rfl
  | cons c rest =>
    by_cases slash : c = '/'
    · exact .inr ⟨rest, by rw [slash]⟩
    · have lineEnd : c ≠ '\n' := by
        rintro rfl
        exact oneLine (List.mem_cons_self ..)
      have none := matchStart_items_none options items source
        (show c ∈ (c :: rest).head? from rfl) slash lineEnd
      rw [none] at matched
      exact absurd matched (by simp)

/-- A match of a pattern of segments splits the text, and captures the texts of the blocks. -/
theorem splits_of_matchStart (wellFormed : ∀ item ∈ items, item.WellFormed)
    (colon : ∀ item ∈ items, item.IsColon) (sensitive : options.sensitive = true)
    (whole : options.whole = true) {source text : Text} (oneLine : '\n' ∉ text)
    {found : Regex.Match}
    (matched : (itemsProgram options source items).matchStart text = some found) :
    ∃ blocks, Splits options.strict items text blocks ∧
      found.captures = itemCaptures items blocks := by
  obtain ⟨segments, rfl, slashless⟩ := exists_slashed (atSegment_of_matchStart oneLine matched)
  have inner := isSegment_of_slashed rfl oneLine slashless
  obtain ⟨blocks, chosen, captures⟩ :=
    chosen_of_matchStart (fun item found => (wellFormed item found).readable) inner matched
  exact ⟨blocks, splits_of_choose sensitive whole colon slashless chosen, captures⟩

/-- A text that is split by blocks is matched. -/
theorem matchStart_of_splits (wellFormed : ∀ item ∈ items, item.WellFormed)
    (colon : ∀ item ∈ items, item.IsColon) (sensitive : options.sensitive = true) (source : Text)
    {text : Text} (oneLine : '\n' ∉ text) {blocks : List (List Text)}
    (splits : Splits options.strict items text blocks) :
    ((itemsProgram options source items).matchStart text).isSome = true := by
  obtain ⟨left, rfl, excess, accepted⟩ := splits.segments
  have slashless : ∀ segment ∈ blocks.flatten ++ left, '/' ∉ segment := by
    intro segment found
    rcases List.mem_append.1 found with inner | outer
    · exact splits.slashless segment inner
    · rcases excess with rfl | rfl
      · exact absurd outer List.not_mem_nil
      · rw [List.mem_singleton.1 outer]
        exact List.not_mem_nil
  have inner := isSegment_of_slashed rfl oneLine slashless
  have chosen := choose_complete (splits.fits sensitive colon) accepted
  obtain ⟨others, choice⟩ := Option.isSome_iff_exists.1 chosen
  obtain ⟨found, matched, -⟩ :=
    matchStart_chosen (fun item found => (wellFormed item found).readable) source inner choice
  rw [matched]
  rfl

/-- No segment that an item stands for is empty. -/
theorem SegmentItem.ne_nil_of_takes {item : SegmentItem} (wellFormed : item.WellFormed)
    {block : List Text} (takes : item.Takes block) : ∀ segment ∈ block, segment ≠ [] := by
  cases item with
  | literal text =>
    obtain rfl : block = [text] := takes
    intro segment found
    rw [List.mem_singleton.1 found]
    exact wellFormed.1
  | parameter kind name => exact takes.2

/-- No segment of blocks that split a text is empty. -/
theorem Splits.ne_nil (wellFormed : ∀ item ∈ items, item.WellFormed) {strict : Bool} {text : Text}
    {blocks : List (List Text)} (splits : Splits strict items text blocks) :
    [] ∉ blocks.flatten := by
  intro found
  obtain ⟨block, member, empty⟩ := List.mem_flatten.1 found
  obtain ⟨index, here, rfl⟩ := List.getElem_of_mem member
  have there : index < items.length := by
    rw [splits.takes.length_eq]
    exact here
  have takes := splits.takes.get there here
  exact SegmentItem.ne_nil_of_takes (wellFormed _ (List.getElem_mem there)) takes [] empty rfl

/-- Blocks that split a text are of one segment where the item has no modifier. -/
theorem Splits.paired {strict : Bool} {text : Text} {blocks : List (List Text)}
    (splits : Splits strict items text blocks) : Paired items blocks := by
  refine splits.takes.imp fun item block takes plain => ?_
  cases item with
  | literal text =>
    obtain rfl : block = [text] := takes
    rfl
  | parameter kind name =>
    have once : kind.modifier = .once := by
      simpa [SegmentItem.isModified, SegmentItem.modifier] using plain
    have count := takes.1
    rw [once] at count
    exact count

/-- Where at most one item has a modifier, a text is split in only one way. -/
theorem Splits.unique (wellFormed : ∀ item ∈ items, item.WellFormed)
    (few : items.countP SegmentItem.isModified ≤ 1) {strict : Bool} {text : Text}
    {blocks others : List (List Text)} (splits : Splits strict items text blocks)
    (splits' : Splits strict items text others) : blocks = others := by
  refine splits.paired.unique splits'.paired few ?_
  -- A slash at the end would be an empty segment more, which no item stands for.
  have apart {blocks others : List (List Text)} (one : Splits strict items text blocks)
      (two : Splits strict items text others)
      (same : slashed blocks.flatten = slashed others.flatten ++ ['/']) : False := by
    have longer : slashed others.flatten ++ ['/'] = slashed (others.flatten ++ [[]]) := by simp
    rw [longer] at same
    have slashless : ∀ segment ∈ others.flatten ++ [[]], '/' ∉ segment := by
      intro segment found
      rcases List.mem_append.1 found with inner | outer
      · exact two.slashless segment inner
      · rw [List.mem_singleton.1 outer]
        exact List.not_mem_nil
    have equal := slashed_inj one.slashless slashless same
    exact one.ne_nil wellFormed (by rw [equal]; simp)
  rcases splits.written with one | ⟨-, one⟩
  · rcases splits'.written with two | ⟨-, two⟩
    · exact slashed_inj splits.slashless splits'.slashless (one.symm.trans two)
    · exact (apart splits splits' (one.symm.trans two)).elim
  · rcases splits'.written with two | ⟨-, two⟩
    · exact (apart splits' splits (two.symm.trans one)).elim
    · have equal := List.append_cancel_right (one.symm.trans two)
      exact slashed_inj splits.slashless splits'.slashless equal

end Matches

/-- A pattern of literal segments and parameters is compiled into a regular expression with one
group for each parameter. A text matches exactly if it is split into blocks of segments, one for
each item, and where at most one item has a modifier the groups capture these blocks. -/
theorem matchStart_iff_splits {items : List SegmentItem} {options : Options}
    (wellFormed : ∀ item ∈ items, item.WellFormed) (colon : ∀ item ∈ items, item.IsColon)
    (sensitive : options.sensitive = true) (whole : options.whole = true) :
    ∃ compiled, compilePattern options (items.flatMap SegmentItem.text) = .ok compiled ∧
      compiled.keys = items.filterMap SegmentItem.key? ∧
      ∀ text : Text, '\n' ∉ text →
        ((compiled.program.matchStart text).isSome = true ↔
          ∃ blocks, Splits options.strict items text blocks) ∧
        (items.countP SegmentItem.isModified ≤ 1 → ∀ found blocks,
          compiled.program.matchStart text = some found →
          Splits options.strict items text blocks →
          found.captures = itemCaptures items blocks) := by
  have known : ∀ item ∈ items, item.Known (Converters.extended options.converters) := by
    intro item found
    have written := colon item found
    rcases item with text | ⟨modifier | modifier | _, name⟩
    · trivial
    · trivial
    · exact absurd written id
    · exact absurd written id
  obtain ⟨source, compiles⟩ := compilePattern_items wellFormed known
  refine ⟨_, compiles, rfl, fun text oneLine => ⟨⟨?_, ?_⟩, ?_⟩⟩
  · intro accepted
    obtain ⟨found, matched⟩ := Option.isSome_iff_exists.1 accepted
    obtain ⟨blocks, splits, -⟩ :=
      splits_of_matchStart wellFormed colon sensitive whole oneLine matched
    exact ⟨blocks, splits⟩
  · rintro ⟨blocks, splits⟩
    exact matchStart_of_splits wellFormed colon sensitive source oneLine splits
  · intro few found blocks matched splits
    obtain ⟨others, splits', captures⟩ :=
      splits_of_matchStart wellFormed colon sensitive whole oneLine matched
    rw [captures, splits.unique wellFormed few splits']

/-- The items of a pattern with a literal segment in front of several others. -/
def albumItems : List SegmentItem := [.literal "album".toList, .parameter (.colon .plus) "path".toList]

/-- A text with a slash at its end is matched, and the segments after the literal are captured. -/
theorem matchStart_iff_splits_album :
    ∃ compiled, compilePattern ⟨true, false, true, Table.empty⟩ "/album/:path+".toList = .ok compiled ∧
      ∃ found, compiled.program.matchStart "/album/a/b/".toList = some found ∧
        found.captures = [some "a/b".toList] := by
  have wellFormed : ∀ item ∈ albumItems, item.WellFormed := by decide
  have sensitive : (⟨true, false, true, Table.empty⟩ : Options).sensitive = true := rfl
  obtain ⟨compiled, compiles, -, matching⟩ :=
    matchStart_iff_splits wellFormed (by decide) sensitive rfl
  have splits : Splits false albumItems "/album/a/b/".toList
      [["album".toList], ["a".toList, "b".toList]] :=
    { slashless := by decide
      takes := .cons rfl (.cons ⟨show 1 ≤ 2 by decide, by decide⟩ .nil)
      written := .inr ⟨rfl, by decide⟩ }
  obtain ⟨accepts, captures⟩ := matching "/album/a/b/".toList (by decide)
  obtain ⟨found, matched⟩ := Option.isSome_iff_exists.1 (accepts.2 ⟨_, splits⟩)
  exact ⟨compiled, compiles, found, matched, captures (by decide) found _ matched splits⟩

end RoutePattern
