import RoutePattern.Proofs.Segments.Blocks

/-!
# Items of one segment each

Where no item has a modifier, every match takes one segment for each item, whatever text it is:
it may hold line ends, go on after the match, and have segments that are cut at other places than
its slashes. So a match captures one text for each parameter, and none of them is empty
(`captures_of_find`).
-/
namespace RoutePattern

open Regex Regex.Matcher

/-! ## Ends that leave the groups alone -/

/-- No end changes the groups. -/
def KeepsSlots (ends : Spot → List Spot) : Prop :=
  ∀ spot, ∀ ended ∈ ends spot, ended.slots = spot.slots

namespace KeepsSlots

variable {one two : Spot → List Spot}

/-- A literal leaves the groups alone. -/
theorem char (flags : Flags) (code : Nat) : KeepsSlots (charEnds flags code) := by
  intro spot ended found
  unfold charEnds at found
  split at found
  · exact absurd found List.not_mem_nil
  · split at found
    · rw [List.mem_singleton.1 found]
      rfl
    · exact absurd found List.not_mem_nil

/-- The end of the text leaves the groups alone. -/
theorem lineEnd : KeepsSlots lineEndEnds := by
  intro spot ended found
  unfold lineEndEnds at found
  split at found
  · rw [List.mem_singleton.1 found]
  · exact absurd found List.not_mem_nil

/-- Either of two ways leaves the groups alone. -/
theorem append (first : KeepsSlots one) (second : KeepsSlots two) :
    KeepsSlots fun spot => one spot ++ two spot := by
  intro spot ended found
  rcases List.mem_append.1 found with here | there
  · exact first spot ended here
  · exact second spot ended there

/-- A look ahead leaves the groups alone if its body does. -/
theorem ahead (keeps : KeepsSlots one) : KeepsSlots (aheadEnds one) := by
  intro spot ended found
  obtain ⟨inner, member, rfl⟩ := List.mem_map.1 found
  exact keeps spot inner (List.mem_of_mem_head? (Option.mem_toList.1 member))

/-- A row of parts leaves the groups alone if each of them does. -/
theorem chain {parts : List (Spot → List Spot)} (each : ∀ ends ∈ parts, KeepsSlots ends) :
    KeepsSlots (RoutePattern.Regex.chain parts) := by
  induction parts with
  | nil =>
    intro spot ended found
    rw [List.mem_singleton.1 found]
  | cons ends parts ih =>
    intro spot ended found
    obtain ⟨middle, first, later⟩ := List.mem_flatMap.1 found
    obtain ⟨here, others⟩ := List.forall_mem_cons.1 each
    rw [ih others middle ended later, here spot middle first]

/-- The end of a route leaves the groups alone. -/
theorem tail (options : Options) : KeepsSlots (RoutePattern.Regex.chain (tailEnds options)) := by
  have slash : KeepsSlots (charEnds options.flags '/'.toNat) := .char options.flags '/'.toNat
  have both : ∀ ends ∈ [charEnds options.flags '/'.toNat, lineEndEnds], KeepsSlots ends :=
    List.forall_mem_cons.2 ⟨slash, List.forall_mem_singleton.2 lineEnd⟩
  have stay : KeepsSlots fun spot => [spot] := fun spot ended found => by
    rw [List.mem_singleton.1 found]
  have last : KeepsSlots (lastSlashEnds options) := (chain both).append stay
  have closing : KeepsSlots (closingEnds options) := by
    unfold closingEnds
    split
    · exact lineEnd
    · exact (slash.append lineEnd).ahead
  refine chain fun ends found => ?_
  unfold tailEnds at found
  rcases List.mem_append.1 found with first | second
  · split at first
    · exact absurd first List.not_mem_nil
    · rw [List.mem_singleton.1 first]
      exact last
  · rw [List.mem_singleton.1 second]
    exact closing

end KeepsSlots

/-! ## The ends of items -/

section Items

variable {options : Options} {spot ended : Spot}

/-- A literal ends after as many characters as it has. -/
theorem exists_taken_of_mem_literal {text : Text}
    (found : ended ∈ chain (text.map fun c => charEnds options.flags c.toNat) spot) :
    ∃ taken rest, taken.length = text.length ∧ spot.after = taken ++ rest ∧
      ended = spot.advance taken rest := by
  induction text generalizing spot with
  | nil => exact ⟨[], spot.after, rfl, rfl, List.mem_singleton.1 found⟩
  | cons c text ih =>
    obtain ⟨middle, first, later⟩ := List.mem_flatMap.1 found
    have own : middle ∈ charEnds options.flags c.toNat spot := first
    unfold charEnds at own
    split at own
    · exact absurd own List.not_mem_nil
    · next d after cut =>
      split at own
      · obtain rfl := List.mem_singleton.1 own
        obtain ⟨taken, rest, size, same, rfl⟩ := ih later
        obtain rfl : after = taken ++ rest := same
        refine ⟨d :: taken, rest, congrArg (· + 1) size, cut, ?_⟩
        rw [Spot.advance_advance]
        rfl
      · exact absurd own List.not_mem_nil

/-- What begins with a slash ends where the rest does behind the slash. -/
theorem mem_chain_slash {later : List (Spot → List Spot)}
    (found : ended ∈ chain (charEnds options.flags '/'.toNat :: later) spot) :
    ∃ rest, spot.after = '/' :: rest ∧ ended ∈ chain later (spot.advance ['/'] rest) := by
  obtain ⟨middle, first, member⟩ := List.mem_flatMap.1 found
  by_cases other : ∀ c ∈ spot.after.head?, c ≠ '/'
  · rw [charEnds_slash_none other] at first
    exact absurd first List.not_mem_nil
  · obtain ⟨rest, cut⟩ : ∃ rest, spot.after = '/' :: rest := by
      simpa [List.head?_eq_some_iff] using other
    rw [charEnds_slash cut] at first
    exact ⟨rest, cut, List.mem_singleton.1 first ▸ member⟩

/-- An item without a modifier ends after a slash and a text that is not empty. -/
theorem SegmentItem.exists_take_of_mem_ends {item : SegmentItem} (readable : item.Readable)
    (once : item.modifier = .once) {index : Nat}
    (found : ended ∈ chain (item.ends options index) spot) :
    ∃ segment rest, segment ≠ [] ∧ spot.after = slashed [segment] ++ rest ∧
      ended = item.take index [segment] rest spot := by
  cases item with
  | literal text =>
    obtain ⟨after, cut, member⟩ := mem_chain_slash found
    obtain ⟨taken, rest, size, same, rfl⟩ := exists_taken_of_mem_literal member
    obtain rfl : after = taken ++ rest := same
    refine ⟨taken, rest, ?_, by simpa using cut, ?_⟩
    · rintro rfl
      exact readable.1 (List.length_eq_zero_iff.1 size.symm)
    · rw [Spot.advance_advance]
      simp [take]
  | parameter kind name =>
    have modifier : kind.modifier = .once := once
    simp only [ends, ParameterKind.takenEnds, ParameterKind.capturedEnds, modifier,
      Modifier.mayBeEmpty, Modifier.mayRepeat, Bool.false_eq_true, if_false] at found
    obtain ⟨after, cut, member⟩ := mem_chain_slash found
    rw [chain_singleton, chain_singleton] at member
    obtain ⟨inner, inside, rfl⟩ := List.mem_map.1 member
    obtain ⟨taken, rest, given, same, -, rfl⟩ := ParameterKind.mem_ends_iff.1 inside
    obtain rfl : after = taken ++ rest := same
    refine ⟨taken, rest, given, by simpa using cut, ?_⟩
    have closed := closeGroup_openGroup spot index (List.cons_ne_nil taken []) (taken ++ rest) rest
    have block : (slashed [taken]).drop 1 = taken := by simp
    rw [block] at closed
    exact closed

/-- Items without modifiers end after one segment for each, and mark these. -/
theorem exists_segments_of_mem_items {items : List SegmentItem}
    (readable : ∀ item ∈ items, item.Readable) (once : ∀ item ∈ items, item.modifier = .once)
    {before : Nat} (found : ended ∈ chain (itemEnds options before items) spot) :
    ∃ segments rest, segments.length = items.length ∧ [] ∉ segments ∧
      spot.after = slashed segments ++ rest ∧
      ended.slots = markBlocks before spot.position items (segments.map ([·])) spot.slots := by
  induction items generalizing before spot with
  | nil => exact ⟨[], spot.after, rfl, List.not_mem_nil, rfl, by
      rw [List.mem_singleton.1 found]
      rfl⟩
  | cons item items ih =>
    obtain ⟨first, others⟩ := List.forall_mem_cons.1 readable
    obtain ⟨single, singles⟩ := List.forall_mem_cons.1 once
    rw [itemEnds, chain_append, List.mem_flatMap] at found
    obtain ⟨middle, own, later⟩ := found
    obtain ⟨segment, after, given, cut, rfl⟩ :=
      SegmentItem.exists_take_of_mem_ends first single own
    obtain ⟨segments, rest, size, full, same, slots⟩ := ih others singles later
    rw [SegmentItem.take_eq] at same slots
    obtain rfl : after = slashed segments ++ rest := same
    refine ⟨segment :: segments, rest, congrArg (· + 1) size, ?_, ?_, ?_⟩
    · exact fun empty => (List.mem_cons.1 empty).elim (fun none => given none.symm) full
    · have parts : slashed (segment :: segments) = slashed [segment] ++ slashed segments :=
        slashed_append [segment] segments
      rw [cut, parts, List.append_assoc]
    · rw [slots, List.map_cons, markBlocks]
      congr 1
      exact Spot.position_advance spot (slashed [segment]) _

end Items

/-! ## Matches -/

/-- A match is found from one of the places of the text on. -/
theorem Regex.Program.exists_matchFrom_of_find {program : Regex.Program} {text : Text}
    {found : Regex.Match} (searched : program.find text = some found) :
    ∃ before after, before.reverse ++ after = text ∧ program.matchFrom before after = some found := by
  have general (before after : Text) (searched : program.search before after = some found) :
      ∃ front rest, front.reverse ++ rest = before.reverse ++ after ∧
        program.matchFrom front rest = some found := by
    induction after generalizing before with
    | nil => exact ⟨before, [], rfl, searched⟩
    | cons c after ih =>
      rw [search] at searched
      split at searched
      · next here =>
        obtain rfl := Option.some.inj searched
        exact ⟨before, c :: after, rfl, here⟩
      · obtain ⟨front, rest, same, matched⟩ := ih (c :: before) searched
        exact ⟨front, rest, by simpa using same, matched⟩
  exact general [] text searched

/-- A match of items without modifiers captures one text for each parameter, and none of them is
empty. -/
theorem captures_of_find {options : Options} {items : List SegmentItem} {source text : Text}
    (readable : ∀ item ∈ items, item.Readable) (once : ∀ item ∈ items, item.modifier = .once)
    {found : Regex.Match} (searched : (itemsProgram options source items).find text = some found) :
    ∃ segments : List Text, segments.length = items.length ∧ [] ∉ segments ∧
      found.captures = itemCaptures items (segments.map ([·])) := by
  obtain ⟨before, after, -, matched⟩ := Regex.Program.exists_matchFrom_of_find searched
  obtain ⟨ended, search, rfl⟩ := Option.map_eq_some_iff.1 matched
  have lists : (itemsExpr options items).Lists options.flags _ := lists_itemsExpr items
  have first := (lists .undecided).first
    ((itemsProgram options source items).stateAt before after)
  have ending := first.symm.trans (congrArg (Option.map State.spot) search)
  have member := List.mem_of_mem_head? (Option.mem_def.2 ending)
  obtain ⟨start, opening, later⟩ := List.mem_flatMap.1 member
  -- The route starts where the text does.
  have bounded : start ∈ if before.isEmpty then
    [((itemsProgram options source items).stateAt before after).spot] else [] := opening
  split at bounded
  · next none =>
    obtain rfl := List.mem_singleton.1 bounded
    obtain rfl : before = [] := List.isEmpty_iff.1 none
    rw [chain_append, List.mem_flatMap] at later
    obtain ⟨middle, inside, last⟩ := later
    obtain ⟨segments, rest, size, full, cut, slots⟩ :=
      exists_segments_of_mem_items readable once inside
    have kept : ended.slots = middle.slots := KeepsSlots.tail options middle ended.spot last
    refine ⟨segments, size, full, ?_⟩
    have here : after.drop 0 = slashed (segments.map ([·])).flatten ++ rest := by
      rw [← List.flatMap_def, List.flatMap_singleton']
      exact cut
    rw [captures_eq rfl, kept, slots]
    exact textIn_markBlocks after (by simp [size]) [] here
  · exact absurd bounded List.not_mem_nil

end RoutePattern
