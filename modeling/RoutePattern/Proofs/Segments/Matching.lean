import RoutePattern.Proofs.Segments.Ends

/-!
# Matching segments

The regular expression of a pattern of whole segments searches among blocks of segments: each item
takes one of its blocks, in the order of its preferences, and the options decide whether the
segments that are left over are allowed (`choose`). A match remembers the blocks of the parameters
(`matchStart_items`).
-/
namespace RoutePattern

open Regex Regex.Matcher

/-! ## The expression -/

section Parts

variable {options : Options}

/-- The expression of a segment that is no row of digits has the ends of the parameter. -/
theorem ParameterKind.lists_segment (options : Options) {kind : ParameterKind} (text : kind.isInteger = false) :
    kind.segment.Lists options.flags (kind.ends options) := by
  intro lead
  have lists := lists_chars_lazy
    ⟨fun c => !sameCode options.flags '/'.toNat c.toNat, hasSiblings options.flags '/'.toNat⟩ 1 lead
  cases kind with
  | colon modifier => exact lists
  | braces modifier => exact lists
  | integer => exact absurd text (by decide)

/-- What the group of a parameter holds has the ends of blocks of segments. -/
theorem ParameterKind.lists_captured (options : Options) (kind : ParameterKind) :
    ((Expr.sequence kind.captured).matcher options.flags .undecided).Lists
      (chain (kind.capturedEnds options)) := by
  by_cases text : kind.isInteger = false
  · have one := ParameterKind.lists_segment options text
    have body : (Expr.sequence [.char '/'.toNat, kind.segment]).Lists options.flags
        (chain [charEnds options.flags '/'.toNat, kind.ends options]) :=
      Expr.lists_sequence (.cons (Expr.lists_char _) (.cons one .nil))
    have more : kind.moreSegments.Lists options.flags (kind.moreEnds options) :=
      body.star rfl (kind.advances_slash_ends options)
    rw [captured, capturedEnds]
    by_cases repeated : kind.modifier.mayRepeat = true
    · rw [if_pos repeated, if_pos repeated]
      exact Expr.lists_sequence (.cons one (.cons more .nil)) .undecided
    · rw [if_neg repeated, if_neg repeated]
      exact Expr.lists_sequence (.cons one .nil) .undecided
  · have lists := lists_chars_greedy
      ⟨fun c => setHolds options.flags false [.category .digit false] c.toNat, false⟩ 1
    cases kind with
    | colon modifier => exact absurd rfl text
    | braces modifier => exact absurd rfl text
    | integer => exact lists.seq lists_id

/-- The parts of an item have the ends of blocks of segments. -/
theorem SegmentItem.lists_parts (index : Nat) (item : SegmentItem) :
    List.Forall₂ (fun part ends => part.Lists options.flags ends) (item.parts index)
      (item.ends options index) := by
  cases item with
  | literal text =>
    rw [parts, ends]
    exact Expr.lists_literal ('/' :: text)
  | parameter kind name =>
    have group := Expr.lists_group (kind.lists_captured options) index
    have taken : List.Forall₂ (fun part ends => part.Lists options.flags ends) (kind.taken index)
        (kind.takenEnds options index) := .cons (Expr.lists_char _) (.cons group .nil)
    have optional := (Expr.lists_sequence taken).optional rfl
    rw [parts, ends, ParameterKind.parts]
    by_cases empty : kind.modifier.mayBeEmpty = true
    · rw [if_pos empty, if_pos empty]
      exact .cons optional .nil
    · rw [if_neg empty, if_neg empty]
      exact taken

variable (options) in
/-- The ends of a row of items, after a count of groups. -/
def itemEnds : (before : Nat) → List SegmentItem → List (Spot → List Spot)
  | _, [] => []
  | before, item :: items =>
    item.ends options (before + 1) ++ itemEnds (before + item.groups) items

/-- The parts of a row of items have the ends of the items. -/
theorem lists_itemParts (before : Nat) (items : List SegmentItem) :
    List.Forall₂ (fun part ends => part.Lists options.flags ends) (itemParts before items)
      (itemEnds options before items) := by
  induction items generalizing before with
  | nil => exact .nil
  | cons item items ih =>
    rw [itemParts, itemEnds]
    exact List.rel_append (item.lists_parts (before + 1)) (ih _)

end Parts

/-! ## The end of a route -/

section Tail

variable (options : Options)

/-- The ends of an optional slash at the very end. -/
def lastSlashEnds (spot : Spot) : List Spot :=
  chain [charEnds options.flags '/'.toNat, lineEndEnds] spot ++ [spot]

/-- The end of what comes last in a route. -/
def closingEnds : Spot → List Spot :=
  if options.whole then lineEndEnds
  else aheadEnds fun spot => charEnds options.flags '/'.toNat spot ++ lineEndEnds spot

/-- The ends of the end of a route. -/
def tailEnds : List (Spot → List Spot) :=
  (if options.strict then [] else [lastSlashEnds options]) ++ [closingEnds options]

/-- The segments that may be left over where a route ends. -/
def tailAccepts (left : List Text) : Bool :=
  !options.whole || left.isEmpty || (!options.strict && left == [[]])

variable {options}

/-- The last part of a route has the ends of what comes last. -/
theorem lists_closing (options : Options) :
    (if options.whole then Expr.anchor .lineEnd else Reader.segmentEndExpr).Lists options.flags
      (closingEnds options) := by
  have lineEnd : (Expr.anchor .lineEnd).Lists options.flags lineEndEnds := Expr.lists_lineEnd rfl
  have ending := Expr.lists_sequence (.cons lineEnd .nil)
  have char : (Expr.char '/'.toNat).Lists options.flags (charEnds options.flags '/'.toNat) :=
    Expr.lists_char _
  have slash := Expr.lists_sequence (.cons char .nil)
  rw [chain_singleton] at ending slash
  have caseless : caseMatters options.flags '/'.toNat = false := caseMatters_slash options.flags
  have lead : (Expr.sequence [.char '/'.toNat]).lead? options.flags = some (.char '/'.toNat) := by
    rw [Expr.sequence, List.foldr_cons, Expr.lead?, Expr.lead?, caseless]
    rfl
  have needed (spot : Spot) (refused : (Lead.char '/'.toNat).admits spot.after = false) :
      charEnds options.flags '/'.toNat spot = [] := by
    apply charEnds_slash_none
    intro c found
    obtain ⟨rest, same⟩ : ∃ rest, spot.after = c :: rest := List.head?_eq_some_iff.1 found
    rw [same, Lead.admits] at refused
    rintro rfl
    exact absurd refused (by decide)
  have open' (spot : Spot) (refused : Lead.undecided.admits spot.after = false) :
      lineEndEnds spot = [] := absurd refused (by simp [Lead.admits])
  -- Of the two branches only the slash has a lead, which is the slash itself.
  have either := slash.alt ending rfl (by rw [lead]; exact needed) open'
  have looked := (Expr.lists_sequence (.cons either .nil)).ahead
  rw [chain_singleton] at looked
  unfold closingEnds
  cases options.whole with
  | false => exact looked
  | true => exact lineEnd

/-- The parts of the end of a route have its ends. -/
theorem lists_tailParts (options : Options) :
    List.Forall₂ (fun part ends => part.Lists options.flags ends) (tailParts options)
      (tailEnds options) := by
  have lineEnd : (Expr.anchor .lineEnd).Lists options.flags lineEndEnds := Expr.lists_lineEnd rfl
  have ahead := (Expr.lists_sequence (.cons lineEnd .nil)).ahead
  rw [chain_singleton, aheadEnds_lineEndEnds] at ahead
  have slash : Reader.optionalSlashExpr.Lists options.flags (lastSlashEnds options) :=
    (Expr.lists_sequence (.cons (Expr.lists_char _) (.cons ahead .nil))).optional rfl
  have closing : List.Forall₂ (fun part ends => part.Lists options.flags ends)
      (if options.whole then [Expr.anchor .lineEnd] else [Reader.segmentEndExpr])
      [closingEnds options] := by
    have last := lists_closing options
    cases whole : options.whole with
    | false =>
      rw [whole] at last
      exact .cons last .nil
    | true =>
      rw [whole] at last
      exact .cons last .nil
  unfold tailParts tailEnds
  cases options.strict with
  | false => exact .cons slash closing
  | true => exact closing

/-- A text that starts with anything but a line end is not at its end. -/
theorem lineEndEnds_eq_nil {spot : Spot} {c : Char} {rest : Text} (cut : spot.after = c :: rest)
    (other : c ≠ '\n') : lineEndEnds spot = [] := by
  simp [lineEndEnds, cut, other]

/-- What comes last is the end of the text if the whole text has to match. -/
theorem closingEnds_whole (whole : options.whole = true) (spot : Spot) :
    closingEnds options spot = lineEndEnds spot := by
  rw [closingEnds, if_pos whole]

/-- What comes last is a look ahead if the text need not match as a whole. -/
theorem closingEnds_open (partly : options.whole = false) (spot : Spot) :
    closingEnds options spot =
      (charEnds options.flags '/'.toNat spot ++ lineEndEnds spot).head?.toList.map
        fun ended => { spot with slots := ended.slots } := by
  rw [closingEnds, if_neg (by rw [partly]; decide), aheadEnds]

/-- What comes last in a route leads nowhere from inside a segment. -/
theorem bounded_closing : Bounded fun spot => (closingEnds options spot).findSome? some := by
  intro spot c found slash lineEnd
  obtain ⟨rest, cut⟩ : ∃ rest, spot.after = c :: rest := List.head?_eq_some_iff.1 found
  have noSlash : charEnds options.flags '/'.toNat spot = [] :=
    charEnds_slash_none (by simpa [cut] using slash)
  show (closingEnds options spot).findSome? some = none
  cases whole : options.whole with
  | false =>
    rw [closingEnds_open whole, noSlash, lineEndEnds_eq_nil cut lineEnd]
    rfl
  | true =>
    rw [closingEnds_whole whole, lineEndEnds_eq_nil cut lineEnd]
    rfl

/-- What comes last in a route needs the end of the text if the whole text has to match. -/
theorem findSome?_closing (options : Options) {spot : Spot} {segments : List Text}
    (cut : spot.after = slashed segments) :
    (closingEnds options spot).findSome? some =
      if !options.whole || segments.isEmpty then some spot else none := by
  cases segments with
  | nil =>
    have noSlash : charEnds options.flags '/'.toNat spot = [] :=
      charEnds_slash_none (by simp [cut])
    have here : lineEndEnds spot = [spot] := by simp [lineEndEnds, cut]
    cases whole : options.whole with
    | false =>
      rw [closingEnds_open whole, noSlash, here]
      rfl
    | true =>
      rw [closingEnds_whole whole, here]
      rfl
  | cons segment segments =>
    have faced : spot.after = '/' :: (segment ++ slashed segments) := cut
    cases whole : options.whole with
    | false =>
      rw [closingEnds_open whole, charEnds_slash faced]
      rfl
    | true =>
      rw [closingEnds_whole whole, lineEndEnds_eq_nil faced (by decide)]
      rfl

/-- The end of a route is an optional slash, unless the options are strict, and what comes last. -/
theorem findSome?_tail_eq (spot : Spot) :
    (chain (tailEnds options) spot).findSome? some =
      if options.strict then (closingEnds options spot).findSome? some
      else ((chain [charEnds options.flags '/'.toNat, lineEndEnds] spot).findSome? fun ended =>
        (closingEnds options ended).findSome? some).or ((closingEnds options spot).findSome? some) := by
  unfold tailEnds
  cases options.strict with
  | true => rw [if_pos rfl, if_pos rfl, List.nil_append, chain_singleton]
  | false =>
    rw [if_neg Bool.false_ne_true, if_neg Bool.false_ne_true, List.singleton_append,
      findSome?_chain_cons, chain_singleton, lastSlashEnds, List.findSome?_append,
      List.findSome?_singleton]

/-- The end of a route leads nowhere from inside a segment. -/
theorem bounded_tail : Bounded fun spot => (chain (tailEnds options) spot).findSome? some := by
  intro spot c found slash lineEnd
  have last : (closingEnds options spot).findSome? some = none :=
    bounded_closing spot c found slash lineEnd
  have noSlash : ∀ d ∈ spot.after.head?, d ≠ '/' := by
    intro d same
    obtain rfl : c = d := Option.mem_unique found same
    exact slash
  show (chain (tailEnds options) spot).findSome? some = none
  rw [findSome?_tail_eq, findSome?_slash_none _ noSlash, last]
  cases options.strict <;> rfl

/-- The end of a route decides by the segments that are left over, and leaves the groups alone. -/
theorem findSome?_tail {spot : Spot} {segments : List Text} (cut : spot.after = slashed segments)
    (whole : ∀ segment ∈ segments, IsSegment segment) :
    ((chain (tailEnds options) spot).findSome? some).map (·.slots) =
      if tailAccepts options segments then some spot.slots else none := by
  have last := findSome?_closing options cut
  rw [findSome?_tail_eq, last]
  unfold tailAccepts
  cases segments with
  | nil =>
    rw [findSome?_slash_none _ (by simp [cut])]
    cases options.strict <;> cases options.whole <;> rfl
  | cons segment segments =>
    have faced : spot.after = '/' :: (segment ++ slashed segments) := cut
    rw [findSome?_slash _ faced, chain_singleton]
    -- One empty segment is the slash at the end, which the options allow or not.
    cases segment with
    | cons c segment =>
      have lineEnd : c ≠ '\n' := by
        rintro rfl
        exact (whole _ (List.mem_cons_self ..)).2 (List.mem_cons_self ..)
      rw [lineEndEnds_eq_nil (List.cons_append ..) lineEnd]
      cases options.strict <;> cases options.whole <;> rfl
    | nil =>
      cases segments with
      | cons segment segments =>
        rw [lineEndEnds_eq_nil (c := '/') rfl (by decide)]
        cases options.strict <;> cases options.whole <;> rfl
      | nil =>
        have ending : (closingEnds options (spot.advance ['/'] [])).findSome? some =
            some (spot.advance ['/'] []) := by
          rw [findSome?_closing options (show (spot.advance ['/'] []).after = slashed [] from rfl),
            List.isEmpty_nil, Bool.or_true, if_pos rfl]
        have here : lineEndEnds (spot.advance ['/'] ([] ++ slashed [])) =
            [spot.advance ['/'] []] := rfl
        rw [here, List.findSome?_singleton, ending]
        cases options.strict <;> cases options.whole <;> rfl

end Tail

end RoutePattern
