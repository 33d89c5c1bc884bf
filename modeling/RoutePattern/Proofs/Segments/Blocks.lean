import RoutePattern.Proofs.Segments.Choice

/-!
# Blocks of segments

The search for blocks finds some exactly where the segments can be cut into blocks that fit the
items (`choose_isSome_iff`). Where at most one item has a modifier there is only one way to cut
them (`Paired.unique`), and the groups of a match are the texts of the blocks (`itemCaptures`).
-/
namespace RoutePattern

open Regex

/-- A modifier allows a count of segments. -/
def Modifier.Allows : Modifier → (count : Nat) → Prop
  | once, count => count = 1
  | optional, count => count ≤ 1
  | plus, count => 1 ≤ count
  | star, _ => True

/-- A modifier allows no segment, one, or more. -/
theorem Modifier.allows_iff (modifier : Modifier) (count : Nat) :
    modifier.Allows count ↔
      (count = 0 → modifier.mayBeEmpty = true) ∧ (2 ≤ count → modifier.mayRepeat = true) := by
  cases modifier <;> simp [Allows, mayBeEmpty, mayRepeat] <;> omega

/-- A block of segments fits an item. -/
def SegmentItem.Fits (options : Options) : SegmentItem → (block : List Text) → Prop
  | literal text, block => ∃ segment, block = [segment] ∧ sameText options text segment = true
  | parameter kind _, block =>
    kind.modifier.Allows block.length ∧ ∀ segment ∈ block, kind.takes options segment = true

/-- The item may take another count of segments than one. -/
def SegmentItem.isModified (item : SegmentItem) : Bool := item.modifier != .once

variable {options : Options}

/-- The blocks of further segments are the rows of segments that a parameter takes. -/
theorem ParameterKind.mem_repeats_iff {kind : ParameterKind} {segments block : List Text} :
    block ∈ kind.repeats options segments ↔
      block <+: segments ∧ ∀ segment ∈ block, kind.takes options segment = true := by
  induction segments generalizing block with
  | nil =>
    rw [repeats, List.mem_singleton, List.prefix_nil]
    constructor
    · rintro rfl
      simp
    · exact fun none => none.1
  | cons segment segments ih =>
    rw [repeats]
    -- A segment that is not taken ends the row, whatever comes after it.
    by_cases taken : kind.takes options segment = true
    · rw [if_pos taken, List.mem_append, List.mem_map, List.mem_singleton]
      cases block with
      | nil => simp
      | cons first block =>
        rw [List.cons_prefix_cons]
        constructor
        · rintro (⟨later, found, same⟩ | none)
          · obtain ⟨rfl, rfl⟩ := List.cons_eq_cons.1 same
            obtain ⟨front, all⟩ := ih.1 found
            exact ⟨⟨rfl, front⟩, by simpa [taken] using all⟩
          · simp at none
        · rintro ⟨⟨rfl, front⟩, all⟩
          exact .inl ⟨block, ih.2 ⟨front, fun other found => all other (by simp [found])⟩, rfl⟩
    · rw [if_neg taken, List.mem_singleton]
      constructor
      · rintro rfl
        simp
      · rintro ⟨front, all⟩
        cases block with
        | nil => rfl
        | cons first block =>
          obtain ⟨rfl, -⟩ := List.cons_prefix_cons.1 front
          exact absurd (all first (List.mem_cons_self ..)) taken

/-- The blocks of at least one segment that a parameter takes: more than one only if it may. -/
theorem ParameterKind.mem_several_iff {kind : ParameterKind} {segments block : List Text} :
    block ∈ kind.several options segments ↔ block ≠ [] ∧ block <+: segments ∧
      (∀ segment ∈ block, kind.takes options segment = true) ∧
      (2 ≤ block.length → kind.modifier.mayRepeat = true) := by
  cases block with
  | nil =>
    constructor
    · exact fun found => absurd rfl (ne_nil_of_mem_several found)
    · exact fun given => absurd rfl given.1
  | cons first block =>
    cases segments with
    | nil => simp [several]
    | cons segment segments =>
      rw [several, List.cons_prefix_cons]
      by_cases taken : kind.takes options segment = true
      · rw [if_pos taken]
        by_cases repeated : kind.modifier.mayRepeat = true
        · rw [if_pos repeated, List.mem_map]
          constructor
          · rintro ⟨later, found, same⟩
            obtain ⟨rfl, rfl⟩ := List.cons_eq_cons.1 same
            obtain ⟨front, all⟩ := mem_repeats_iff.1 found
            exact ⟨by simp, ⟨rfl, front⟩, by simpa [taken] using all, fun _ => repeated⟩
          · rintro ⟨-, ⟨rfl, front⟩, all, -⟩
            have others := mem_repeats_iff.2
              ⟨front, fun other found => all other (List.mem_cons_of_mem _ found)⟩
            exact ⟨block, others, rfl⟩
        · rw [if_neg repeated, List.mem_singleton]
          constructor
          · intro same
            obtain ⟨rfl, rfl⟩ := List.cons_eq_cons.1 same
            exact ⟨by simp, ⟨rfl, List.nil_prefix⟩, by simpa using taken, by simp⟩
          · rintro ⟨-, ⟨rfl, front⟩, all, short⟩
            have alone : block = [] := by
              cases block with
              | nil => rfl
              | cons second block => exact absurd (short (by simp)) repeated
            rw [alone]
      · rw [if_neg taken]
        constructor
        · exact fun found => absurd found (List.not_mem_nil)
        · rintro ⟨-, ⟨rfl, -⟩, all, -⟩
          exact absurd (all first (List.mem_cons_self ..)) taken

/-- The blocks that an item can take are those at the start that fit it. -/
theorem SegmentItem.mem_blocks_iff {item : SegmentItem} {segments block : List Text} :
    block ∈ item.blocks options segments ↔ block <+: segments ∧ item.Fits options block := by
  cases item with
  | literal text =>
    cases segments with
    | nil =>
      constructor
      · exact fun found => absurd found (List.not_mem_nil)
      · rintro ⟨front, segment, rfl, -⟩
        exact absurd front (by simp)
    | cons segment segments =>
      rw [blocks]
      constructor
      · intro found
        split at found
        · next same =>
          obtain rfl : block = [segment] := by simpa using found
          exact ⟨by simp, segment, rfl, same⟩
        · exact absurd found (List.not_mem_nil)
      · rintro ⟨front, first, rfl, same⟩
        obtain ⟨rfl, -⟩ := List.cons_prefix_cons.1 front
        rw [if_pos same]
        exact List.mem_singleton.2 rfl
  | parameter kind name =>
    rw [blocks, ParameterKind.blocks, List.mem_append, ParameterKind.mem_several_iff, Fits,
      Modifier.allows_iff]
    cases block with
    | nil => by_cases empty : kind.modifier.mayBeEmpty = true <;> simp [empty]
    | cons first block =>
      have left : first :: block ∉ if kind.modifier.mayBeEmpty then [[]] else [] := by
        split <;> simp
      constructor
      · rintro (⟨-, front, all, short⟩ | none)
        · exact ⟨front, ⟨by simp, short⟩, all⟩
        · exact absurd none left
      · rintro ⟨front, ⟨-, short⟩, all⟩
        exact .inl ⟨by simp, front, all, short⟩

/-- The search for blocks finds blocks that fit, and leaves what the options allow. -/
theorem choose_sound {items : List SegmentItem} {segments : List Text} {blocks : List (List Text)}
    (chosen : choose options items segments = some blocks) :
    List.Forall₂ (SegmentItem.Fits options) items blocks ∧
      ∃ left, segments = blocks.flatten ++ left ∧ tailAccepts options left = true := by
  induction items generalizing segments blocks with
  | nil =>
    rw [choose] at chosen
    split at chosen
    · next accepted =>
      obtain rfl : [] = blocks := Option.some.inj chosen
      exact ⟨.nil, segments, rfl, accepted⟩
    · simp at chosen
  | cons item items ih =>
    rw [choose] at chosen
    obtain ⟨block, found, later⟩ := List.exists_of_findSome?_eq_some chosen
    obtain ⟨others, rest, rfl⟩ := Option.map_eq_some_iff.1 later
    obtain ⟨⟨left, cut⟩, fits⟩ := SegmentItem.mem_blocks_iff.1 found
    obtain ⟨all, excess, same, accepted⟩ := ih rest
    refine ⟨.cons fits all, excess, ?_, accepted⟩
    rw [← cut, List.drop_left] at same
    rw [List.flatten_cons, List.append_assoc, ← same, cut]

/-- The search for blocks finds some where there are blocks that fit. -/
theorem choose_complete {items : List SegmentItem} {blocks : List (List Text)} {left : List Text}
    (fits : List.Forall₂ (SegmentItem.Fits options) items blocks)
    (accepted : tailAccepts options left = true) :
    (choose options items (blocks.flatten ++ left)).isSome = true := by
  induction fits with
  | nil => simp [choose, accepted]
  | cons first _ ih =>
    rename_i item block items blocks _
    rw [choose, List.findSome?_isSome_iff]
    refine ⟨block, SegmentItem.mem_blocks_iff.2 ⟨?_, first⟩, ?_⟩
    · rw [List.flatten_cons, List.append_assoc]
      exact List.prefix_append ..
    · rw [List.flatten_cons, List.append_assoc, List.drop_left, Option.isSome_map]
      exact ih

/-- The search for blocks finds some exactly if the segments can be cut into blocks that fit, and a
rest that the options allow. -/
theorem choose_isSome_iff {items : List SegmentItem} {segments : List Text} :
    (choose options items segments).isSome = true ↔
      ∃ blocks left, List.Forall₂ (SegmentItem.Fits options) items blocks ∧
        segments = blocks.flatten ++ left ∧ tailAccepts options left = true := by
  constructor
  · intro found
    obtain ⟨blocks, chosen⟩ := Option.isSome_iff_exists.1 found
    obtain ⟨fits, left, cut, accepted⟩ := choose_sound chosen
    exact ⟨blocks, left, fits, cut, accepted⟩
  · rintro ⟨blocks, left, fits, rfl, accepted⟩
    exact choose_complete fits accepted

/-! ## Only one way to cut -/

/-- Blocks for items: one segment for each item without a modifier. -/
def Paired : List SegmentItem → List (List Text) → Prop :=
  List.Forall₂ fun item block => item.isModified = false → block.length = 1

/-- A block that fits an item without a modifier is of one segment. -/
theorem SegmentItem.length_of_fits {item : SegmentItem} {block : List Text}
    (fit : item.Fits options block) (plain : item.isModified = false) : block.length = 1 := by
  cases item with
  | literal text =>
    obtain ⟨segment, rfl, -⟩ := fit
    rfl
  | parameter kind name =>
    have once : kind.modifier = .once := by
      simpa [isModified, modifier] using plain
    have count := fit.1
    rw [once] at count
    exact count

/-- Blocks that fit are of one segment where the item has no modifier. -/
theorem paired_of_fits {items : List SegmentItem} {blocks : List (List Text)}
    (fits : List.Forall₂ (SegmentItem.Fits options) items blocks) : Paired items blocks :=
  fits.imp fun _ _ fit plain => SegmentItem.length_of_fits fit plain

/-- Items without modifiers take as many segments as they are. -/
theorem Paired.length_flatten {items : List SegmentItem} {blocks : List (List Text)}
    (paired : Paired items blocks) (plain : items.countP SegmentItem.isModified = 0) :
    blocks.flatten.length = items.length := by
  induction paired with
  | nil => rfl
  | cons first _ ih =>
    rename_i item block items blocks _
    rw [List.countP_eq_zero] at plain
    have one : block.length = 1 := first (by simpa using plain item (List.mem_cons_self ..))
    have rest := ih (List.countP_eq_zero.2 fun other found =>
      plain other (List.mem_cons_of_mem _ found))
    rw [List.flatten_cons, List.length_append, List.length_cons, rest, one, Nat.add_comm]

/-- Where at most one item has a modifier, segments are cut into blocks in only one way. -/
theorem Paired.unique {items : List SegmentItem} {blocks others : List (List Text)}
    (paired : Paired items blocks) (paired' : Paired items others)
    (few : items.countP SegmentItem.isModified ≤ 1) (same : blocks.flatten = others.flatten) :
    blocks = others := by
  induction paired generalizing others with
  | nil =>
    cases paired'
    rfl
  | cons first later ih =>
    rename_i item block items blocks
    obtain ⟨other, others, first', later', rfl⟩ := List.forall₂_cons_left_iff.1 paired'
    rw [List.flatten_cons, List.flatten_cons] at same
    have size : block.length = other.length := by
      cases modified : item.isModified with
      | false => rw [first modified, first' modified]
      | true =>
        -- All other items take one segment each, so the counts decide what is left for this one.
        have rest : items.countP SegmentItem.isModified = 0 := by
          rw [List.countP_cons_of_pos modified] at few
          omega
        have total := congrArg List.length same
        rw [List.length_append, List.length_append, Paired.length_flatten later rest,
          Paired.length_flatten later' rest] at total
        omega
    obtain ⟨heads, tails⟩ := List.append_inj same size
    have fewer : items.countP SegmentItem.isModified ≤ 1 := by
      rw [List.countP_cons] at few
      omega
    rw [heads, ih later' fewer tails]

/-! ## Captures -/

/-- The text that a parameter captures with a block of segments. -/
def captureText (block : List Text) : Option Text :=
  if block.isEmpty then none else some (Text.join ['/'] block)

/-- The texts that the parameters among items capture with their blocks. -/
def itemCaptures : List SegmentItem → List (List Text) → List (Option Text)
  | .literal _ :: items, _ :: blocks => itemCaptures items blocks
  | .parameter _ _ :: items, block :: blocks => captureText block :: itemCaptures items blocks
  | _, _ => []

/-- The text between the places of a group. -/
def Regex.Slot.textIn (text : Text) (slot : Slot) : Option Text :=
  slot.span?.map fun (start, stop) => (text.drop start).take (stop - start)

/-- Segments after slashes are a slash and the segments joined by slashes. -/
theorem slashed_eq_cons {segments : List Text} (given : segments ≠ []) :
    slashed segments = '/' :: Text.join ['/'] segments := by
  induction segments with
  | nil => exact absurd rfl given
  | cons segment segments ih =>
    cases segments with
    | nil => simp [Text.join]
    | cons second segments =>
      have joined : Text.join ['/'] (segment :: second :: segments) =
        segment ++ ['/'] ++ Text.join ['/'] (second :: segments) := rfl
      rw [slashed_cons, ih (by simp), joined]
      simp

/-- The mark of a block is the text that it captures. -/
theorem textIn_mark {text rest : Text} {position : Nat} {block : List Text}
    (here : text.drop position = slashed block ++ rest) :
    (if block.isEmpty then Slot.unset
      else ⟨some (position + 1), some (position + (slashed block).length)⟩).textIn text =
        captureText block := by
  unfold captureText
  cases block with
  | nil => rfl
  | cons segment block =>
    rw [slashed_eq_cons (by simp)] at here
    have later : text.drop (position + 1) = Text.join ['/'] (segment :: block) ++ rest := by
      rw [← List.drop_drop, here]
      rfl
    have size : position + ((Text.join ['/'] (segment :: block)).length + 1) - (position + 1) =
        (Text.join ['/'] (segment :: block)).length := by
      omega
    have ordered : position + 1 ≤ position + ((Text.join ['/'] (segment :: block)).length + 1) := by
      omega
    rw [slashed_eq_cons (by simp), List.length_cons]
    simp only [List.isEmpty_cons, Bool.false_eq_true, if_false, Slot.textIn, Slot.span?,
      if_pos ordered, Option.map_some, later, size, List.take_left]

/-- A group that has not matched yet is marked where its block is taken. -/
theorem markBlock_append (done others : List Slot) (position : Nat) (block : List Text) :
    markBlock (done.length + 1) position block (done ++ .unset :: others) =
      done ++ [if block.isEmpty then Slot.unset
        else ⟨some (position + 1), some (position + (slashed block).length)⟩] ++ others := by
  unfold markBlock
  cases block with
  | nil => simp
  | cons segment block =>
    rw [List.isEmpty_cons, if_neg Bool.false_ne_true, if_neg Bool.false_ne_true,
      Nat.add_sub_cancel, modify_append_cons]
    simp

/-- The marks of blocks are the texts that the parameters capture. -/
theorem textIn_markBlocks (text : Text) {items : List SegmentItem} {blocks : List (List Text)}
    (paired : items.length = blocks.length) (done : List Slot) {position : Nat} {rest : Text}
    (here : text.drop position = slashed blocks.flatten ++ rest) :
    (markBlocks done.length position items blocks
        (done ++ List.replicate (itemGroups items) .unset)).map (Slot.textIn text) =
      done.map (Slot.textIn text) ++ itemCaptures items blocks := by
  -- The slots that are done grow by one with every parameter, and none of them is marked again.
  induction items generalizing blocks done position with
  | nil => simp [markBlocks, itemCaptures, itemGroups]
  | cons item items ih =>
    obtain ⟨block, blocks, rfl⟩ := List.exists_cons_of_length_eq_add_one paired.symm
    have others : items.length = blocks.length := by simpa using paired
    rw [List.flatten_cons, slashed_append, List.append_assoc] at here
    have later : text.drop (position + (slashed block).length) =
        slashed blocks.flatten ++ rest := by
      rw [← List.drop_drop, here, List.drop_left]
    cases item with
    | literal literalText =>
      have count : itemGroups (.literal literalText :: items) = itemGroups items := by
        simp [itemGroups, SegmentItem.groups]
      rw [markBlocks, count]
      exact ih others done later
    | parameter kind name =>
      have count : itemGroups (.parameter kind name :: items) = itemGroups items + 1 := by
        simp [itemGroups, SegmentItem.groups, Nat.add_comm 1]
      rw [markBlocks, count, List.replicate_succ, SegmentItem.mark, markBlock_append]
      have others' := ih others (done ++ [if block.isEmpty then Slot.unset
        else ⟨some (position + 1), some (position + (slashed block).length)⟩]) later
      rw [List.length_append, List.length_singleton] at others'
      refine others'.trans ?_
      rw [List.map_append, List.map_singleton, textIn_mark here, itemCaptures]
      simp

/-! ## Matches -/

/-- The captures of a match are the texts between the places of its groups. -/
theorem captures_eq {found : Regex.Match} {slots : List Slot}
    (groups : found.groups = slots.map Slot.span?) :
    found.captures = slots.map (Slot.textIn found.text) := by
  rw [Match.captures, groups, List.map_map]
  rfl

/-- A pattern of segments matches where blocks are chosen, and captures their texts. -/
theorem matchStart_chosen {items : List SegmentItem} (readable : ∀ item ∈ items, item.Readable)
    (source : Text) {segments : List Text} (whole : ∀ segment ∈ segments, IsSegment segment)
    {blocks : List (List Text)} (chosen : choose options items segments = some blocks) :
    ∃ found, (itemsProgram options source items).matchStart (slashed segments) = some found ∧
      found.captures = itemCaptures items blocks := by
  have groups := matchStart_items options readable source whole
  rw [chosen, Option.map_some] at groups
  obtain ⟨found, matched, marks⟩ := Option.map_eq_some_iff.1 groups
  obtain ⟨fits, left, cut, -⟩ := choose_sound chosen
  have here : (slashed segments).drop 0 = slashed blocks.flatten ++ slashed left := by
    rw [List.drop_zero, cut, slashed_append]
  refine ⟨found, matched, ?_⟩
  rw [captures_eq marks, text_of_matchStart matched]
  exact textIn_markBlocks (slashed segments) fits.length_eq [] here

/-- A pattern of segments matches only where blocks are chosen. -/
theorem chosen_of_matchStart {items : List SegmentItem}
    (readable : ∀ item ∈ items, item.Readable) {source : Text} {segments : List Text}
    (whole : ∀ segment ∈ segments, IsSegment segment) {found : Regex.Match}
    (matched : (itemsProgram options source items).matchStart (slashed segments) = some found) :
    ∃ blocks, choose options items segments = some blocks ∧
      found.captures = itemCaptures items blocks := by
  have groups := matchStart_items options readable source whole
  rw [matched, Option.map_some] at groups
  obtain ⟨blocks, chosen, -⟩ := Option.map_eq_some_iff.1 groups.symm
  obtain ⟨same, matched', captures⟩ := matchStart_chosen readable source whole chosen
  obtain rfl : found = same := Option.some.inj (matched.symm.trans matched')
  exact ⟨blocks, chosen, captures⟩

/-!
## The preferences of items

An item prefers longer blocks to shorter ones. Where at most one item has a modifier, a longer
block leaves too few segments for the items after it, so blocks that fit all segments are chosen
(`choose_flatten`).
-/

variable {options : Options}

/-- A search in an order finds what no earlier element keeps it from. -/
theorem findSome?_of_pairwise {α β : Type} {earlier : α → α → Prop} {search : α → Option β}
    {list : List α} (sorted : list.Pairwise earlier) {one : α} (found : one ∈ list) {value : β}
    (here : search one = some value)
    (before : ∀ other ∈ list, earlier other one → search other = none) :
    list.findSome? search = some value := by
  obtain ⟨front, back, rfl⟩ := List.append_of_mem found
  have passed : front.findSome? search = none := by
    rw [List.findSome?_eq_none_iff]
    intro other member
    exact before other (List.mem_append_left _ member)
      ((List.pairwise_append.1 sorted).2.2 other member one (List.mem_cons_self ..))
  rw [List.findSome?_append, passed, Option.none_or, List.findSome?_cons_of_isSome]
  · exact here
  · rw [here]
    rfl

/-- The blocks of further segments become shorter. -/
theorem ParameterKind.pairwise_repeats (kind : ParameterKind) (segments : List Text) :
    (kind.repeats options segments).Pairwise fun one two => two.length < one.length := by
  induction segments with
  | nil => exact List.pairwise_singleton ..
  | cons segment segments ih =>
    rw [repeats]
    split
    · rw [List.pairwise_append, List.pairwise_map]
      refine ⟨ih.imp fun shorter => Nat.succ_lt_succ shorter, List.pairwise_singleton .., ?_⟩
      intro one found two last
      obtain ⟨block, -, rfl⟩ := List.mem_map.1 found
      rw [List.mem_singleton.1 last]
      exact Nat.zero_lt_succ _
    · exact List.pairwise_singleton ..

/-- The blocks that an item can take become shorter. -/
theorem SegmentItem.pairwise_blocks (options : Options) (item : SegmentItem)
    (segments : List Text) :
    (item.blocks options segments).Pairwise fun one two => two.length < one.length := by
  cases item with
  | literal text =>
    cases segments with
    | nil => exact .nil
    | cons segment segments =>
      rw [blocks]
      split
      · exact List.pairwise_singleton ..
      · exact .nil
  | parameter kind name =>
    have several : (kind.several options segments).Pairwise fun one two => two.length < one.length := by
      cases segments with
      | nil => exact .nil
      | cons segment segments =>
        rw [ParameterKind.several]
        split
        · split
          · rw [List.pairwise_map]
            exact (kind.pairwise_repeats segments).imp fun shorter => Nat.succ_lt_succ shorter
          · exact List.pairwise_singleton ..
        · exact .nil
    rw [blocks, ParameterKind.blocks, List.pairwise_append]
    refine ⟨several, ?_, ?_⟩
    · split
      · exact List.pairwise_singleton ..
      · exact .nil
    · intro one found two last
      have empty : two = [] := by
        split at last
        · exact List.mem_singleton.1 last
        · exact absurd last List.not_mem_nil
      rw [empty]
      exact List.length_pos_of_ne_nil (ParameterKind.mem_several_iff.1 found).1

/-- Items of which none has a modifier choose nothing where they are more than the segments. -/
theorem choose_eq_none {items : List SegmentItem} {segments : List Text}
    (plain : items.countP SegmentItem.isModified = 0) (few : segments.length < items.length) :
    choose options items segments = none := by
  rw [Option.eq_none_iff_forall_not_mem]
  intro blocks chosen
  obtain ⟨fits, left, rfl, -⟩ := choose_sound chosen
  have size := (paired_of_fits fits).length_flatten plain
  rw [List.length_append] at few
  omega

/-- Where at most one item has a modifier, blocks that fit all segments are chosen. -/
theorem choose_flatten {items : List SegmentItem} {blocks : List (List Text)}
    (fits : List.Forall₂ (SegmentItem.Fits options) items blocks)
    (few : items.countP SegmentItem.isModified ≤ 1) :
    choose options items blocks.flatten = some blocks := by
  induction fits with
  | nil => simp [choose, tailAccepts]
  | cons first later ih =>
    rename_i item block items blocks
    have fewer : items.countP SegmentItem.isModified ≤ 1 := by
      rw [List.countP_cons] at few
      omega
    have member : block ∈ item.blocks options (block ++ blocks.flatten) :=
      SegmentItem.mem_blocks_iff.2 ⟨List.prefix_append .., first⟩
    have others := item.pairwise_blocks options (block ++ blocks.flatten)
    rw [List.flatten_cons, choose]
    refine findSome?_of_pairwise others member ?_ ?_
    · rw [List.drop_left, ih fewer]
      rfl
    · intro longer candidate more
      rw [Option.map_eq_none_iff]
      obtain ⟨front, fit⟩ := SegmentItem.mem_blocks_iff.1 candidate
      -- Without a modifier every block has one segment; with one, a longer block leaves too few
      -- segments for the other items, which take one each.
      cases modified : item.isModified with
      | false =>
        have one := SegmentItem.length_of_fits first modified
        have other := SegmentItem.length_of_fits fit modified
        omega
      | true =>
        have plain : items.countP SegmentItem.isModified = 0 := by
          rw [List.countP_cons_of_pos modified] at few
          omega
        have size := (paired_of_fits later).length_flatten plain
        have inside := front.length_le
        rw [List.length_append] at inside
        refine choose_eq_none plain ?_
        rw [List.length_drop, List.length_append]
        omega

end RoutePattern
