import RoutePattern.Proofs.Segments.Matching

/-!
# Choosing blocks of segments

Matching a pattern of whole segments is a search on lists of segments: each item takes one of its
blocks, in the order of its preferences, as long as the items after it can take theirs (`choose`).
A match succeeds when that search does, and its groups mark the chosen blocks.
-/
namespace RoutePattern

open Regex

/-- The blocks that the items of a pattern take from segments, one for each item. -/
def choose (options : Options) : List SegmentItem → (segments : List Text) →
    Option (List (List Text))
  | [], segments => if tailAccepts options segments then some [] else none
  | item :: items, segments =>
    (item.blocks options segments).findSome? fun block =>
      (choose options items (segments.drop block.length)).map (block :: ·)

/-- The groups after an item has taken a block of segments from a position on. -/
def SegmentItem.mark (index position : Nat) (block : List Text) (slots : List Slot) :
    SegmentItem → List Slot
  | literal _ => slots
  | parameter _ _ => markBlock index position block slots

/-- The groups after a row of items has taken blocks of segments from a position on. -/
def markBlocks : (before position : Nat) → List SegmentItem → List (List Text) → List Slot →
    List Slot
  | before, position, item :: items, block :: blocks, slots =>
    markBlocks (before + item.groups) (position + (slashed block).length) items blocks
      (item.mark (before + 1) position block slots)
  | _, _, _, _, slots => slots

variable {options : Options}

/-- The spot after an item has taken a block stands in front of the other segments. -/
theorem SegmentItem.take_eq (item : SegmentItem) (index : Nat) (block : List Text) (rest : Text)
    (spot : Spot) :
    item.take index block rest spot = ⟨(spot.advance (slashed block) rest).toPlace,
      item.mark index spot.position block spot.slots⟩ := by
  cases item with
  | literal text => rfl
  | parameter kind name => rfl

/-- What comes after a row of items leads nowhere from inside a segment. -/
theorem bounded_items (options : Options) (before : Nat) (items : List SegmentItem) :
    Bounded fun spot =>
      (chain (itemEnds options before items ++ tailEnds options) spot).findSome? some := by
  induction items generalizing before with
  | nil => exact bounded_tail
  | cons item items ih =>
    intro spot c found slash lineEnd
    have later := SegmentItem.bounded_ends options (ih (before + item.groups)) (before + 1) item
    show (chain (itemEnds options before (item :: items) ++ tailEnds options) spot).findSome? some =
      none
    rw [itemEnds, List.append_assoc, findSome?_chain_append]
    exact later spot c found slash lineEnd

/-- The items of a route go on from the blocks that they choose. -/
theorem findSome?_items (options : Options) {items : List SegmentItem}
    (readable : ∀ item ∈ items, item.Readable)
    (before : Nat) {spot : Spot} {segments : List Text} (cut : spot.after = slashed segments)
    (whole : ∀ segment ∈ segments, IsSegment segment) :
    ((chain (itemEnds options before items ++ tailEnds options) spot).findSome? some).map (·.slots) =
      (choose options items segments).map fun blocks =>
        markBlocks before spot.position items blocks spot.slots := by
  -- Item by item: the places after a block are those in front of the segments that are left.
  induction items generalizing before spot segments with
  | nil =>
    rw [itemEnds, List.nil_append, findSome?_tail cut whole, choose]
    split
    · rfl
    · rfl
  | cons item items ih =>
    have first := readable item (List.mem_cons_self ..)
    have others : ∀ other ∈ items, other.Readable :=
      fun other found => readable other (List.mem_cons_of_mem _ found)
    rw [itemEnds, List.append_assoc, findSome?_chain_append,
      SegmentItem.findSome?_ends (bounded_items options (before + item.groups) items) first (before + 1)
        cut whole,
      List.map_findSome?, choose, List.map_findSome?]
    refine findSome?_congr fun block _ => ?_
    have left : ∀ segment ∈ segments.drop block.length, IsSegment segment :=
      fun segment found => whole segment (List.mem_of_mem_drop found)
    have after : (item.take (before + 1) block (slashed (segments.drop block.length)) spot).after =
        slashed (segments.drop block.length) := by
      rw [SegmentItem.take_eq]
      rfl
    have position : (item.take (before + 1) block (slashed (segments.drop block.length))
        spot).position = spot.position + (slashed block).length := by
      rw [SegmentItem.take_eq]
      exact Spot.position_advance spot (slashed block) _
    have slots : (item.take (before + 1) block (slashed (segments.drop block.length))
        spot).slots = item.mark (before + 1) spot.position block spot.slots := by
      rw [SegmentItem.take_eq]
    have step := ih others (before + item.groups) after left
    rw [position, slots] at step
    rw [Function.comp, step, Function.comp, Option.map_map]
    rfl

/-! ## Programs -/

/-- The program of a pattern of whole segments. -/
def itemsProgram (options : Options) (source : Text) (items : List SegmentItem) : Regex.Program :=
  ⟨source, options.flags, itemsExpr options items, itemGroups items, []⟩

/-- The groups of a match are those of the spot where the expression ends first. -/
theorem matchStart_map_groups (program : Regex.Program) {ends : Spot → List Spot}
    (lists : program.expr.Lists program.flags ends) (text : Text) :
    (program.matchStart text).map (·.groups) =
      (((ends ⟨⟨[], text⟩, List.replicate program.groups .unset⟩).findSome? some).map
        (·.slots)).map fun slots => slots.map Slot.span? := by
  have final : Follows (fun ended => .matched ended.note) some := fun _ => rfl
  have first := lists .undecided _ _ final (program.stateAt [] text)
  have state : (program.stateAt [] text).spot =
      ⟨⟨[], text⟩, List.replicate program.groups .unset⟩ := rfl
  rw [state] at first
  rw [← first, Program.matchStart, Program.matchFrom, Matcher.first, Attempt.spot?, Option.map_map,
    Option.map_map, Option.map_map]
  rfl

/-- A match at the start of a text is one of this text. -/
theorem text_of_matchStart {program : Regex.Program} {text : Text} {found : Regex.Match}
    (matched : program.matchStart text = some found) : found.text = text := by
  rw [Program.matchStart, Program.matchFrom] at matched
  obtain ⟨ended, -, rfl⟩ := Option.map_eq_some_iff.1 matched
  rfl

/-- The expression of a pattern of whole segments has the ends of its items. -/
theorem lists_itemsExpr (items : List SegmentItem) :
    (itemsExpr options items).Lists options.flags
      (chain ((fun spot => if spot.before.isEmpty then [spot] else []) ::
        (itemEnds options 0 items ++ tailEnds options))) := by
  have start := Expr.lists_lineStart (show options.flags.multiline = false from rfl)
  have parts := List.rel_append (lists_itemParts 0 items) (lists_tailParts options)
  exact Expr.lists_sequence (.cons start parts)

/-- At the start of a text a route goes on from its items. -/
theorem findSome?_lineStart {ends : List (Spot → List Spot)} {text : Text} {slots : List Slot} :
    (chain ((fun spot => if spot.before.isEmpty then [spot] else []) :: ends)
        ⟨⟨[], text⟩, slots⟩).findSome? some =
      (chain ends ⟨⟨[], text⟩, slots⟩).findSome? some := by
  rw [findSome?_chain_cons]
  exact List.findSome?_singleton

/-- A pattern of whole segments matches segments of which its items choose blocks. -/
theorem matchStart_items (options : Options) {items : List SegmentItem}
    (readable : ∀ item ∈ items, item.Readable)
    (source : Text) {segments : List Text} (whole : ∀ segment ∈ segments, IsSegment segment) :
    ((itemsProgram options source items).matchStart (slashed segments)).map (·.groups) =
      (choose options items segments).map fun blocks =>
        (markBlocks 0 0 items blocks (List.replicate (itemGroups items) .unset)).map
          Slot.span? := by
  have faced : (⟨⟨[], slashed segments⟩, List.replicate (itemGroups items) .unset⟩ : Spot).after =
      slashed segments := rfl
  have search := findSome?_items options readable 0 faced whole
  have groups := matchStart_map_groups (itemsProgram options source items)
    (lists_itemsExpr items) (slashed segments)
  rw [findSome?_lineStart] at groups
  rw [groups]
  refine (congrArg (Option.map _) search).trans ?_
  rw [Option.map_map]
  rfl

/-- A pattern of whole segments matches no text that starts inside a segment. -/
theorem matchStart_items_none (options : Options) (items : List SegmentItem) (source : Text)
    {text : Text} {c : Char} (start : c ∈ text.head?) (slash : c ≠ '/') (lineEnd : c ≠ '\n') :
    (itemsProgram options source items).matchStart text = none := by
  have stuck : (chain (itemEnds options 0 items ++ tailEnds options)
      ⟨⟨[], text⟩, List.replicate (itemsProgram options source items).groups .unset⟩).findSome?
        some = none := bounded_items options 0 items _ c start slash lineEnd
  have groups := matchStart_map_groups (itemsProgram options source items)
    (lists_itemsExpr items) text
  rw [findSome?_lineStart, stuck] at groups
  exact Option.map_eq_none_iff.1 groups

end RoutePattern
