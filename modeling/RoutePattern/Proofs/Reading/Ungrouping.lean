import RoutePattern.Proofs.Matching.Ungrouped
import RoutePattern.Proofs.Reading.Parts

/-!
# Reading without groups

Two readers go along two sources that differ in that the second one has a group that only holds its
contents together wherever the first one has a group that remembers what it matches
(`Reader.Ungroups`). Each lexeme does the same to both (`Reader.Ungroups.act`), as long as what it
makes is tame.
-/
namespace RoutePattern.Regex

open RoutePattern.Regex.Expr (isTame)

/-- A group of the second kind does what one of the first kind does, and remembers nothing. -/
inductive FrameKind.Ungroups : FrameKind → FrameKind → Prop
  | whole : Ungroups whole whole
  | capture (index : Nat) : Ungroups (capture index) plain
  | plain : Ungroups plain plain
  | atomic : Ungroups atomic atomic
  | ahead (negated : Bool) : Ungroups (ahead negated) (ahead negated)
  | behind (negated outermost outermost' : Bool) :
    Ungroups (behind negated outermost) (behind negated outermost')

/-- Such a group hangs on no condition. -/
theorem FrameKind.Ungroups.ne_conditional {kind other : FrameKind} (ungroups : kind.Ungroups other)
    (index : Nat) : other ≠ .conditional index := by
  cases ungroups <;> exact fun same => FrameKind.noConfusion same

/-- The second item does what the first one does, and remembers nothing. -/
structure Item.Ungroups (item other : Item) : Prop where
  parts : (Expr.sequence item.parts).Ungroups (Expr.sequence other.parts)
  repeats : item.isRepeatable = true → other.isRepeatable = true

/-- The second open group holds what the first one holds, without the groups in it. -/
structure Frame.Ungroups (frame other : Frame) : Prop where
  kind : frame.kind.Ungroups other.kind
  shown : other.verbose = false
  branches : Expr.Ungroups.Branches frame.branches other.branches
  items : List.Forall₂ Item.Ungroups frame.items other.items

/-- A reader that knows of no flags and no groups. -/
structure Reader.IsBare (reader : Reader) : Prop where
  flags : reader.flags = .none
  alphabets : reader.alphabets = []
  widths : reader.widths = []
  references : reader.references = []

/-- The second reader holds what the first one holds, without the groups in it, and neither knows
of any flags. -/
structure Reader.Ungroups (reader other : Reader) : Prop where
  frame : reader.frame.Ungroups other.frame
  outer : List.Forall₂ Frame.Ungroups reader.outer other.outer
  flags : reader.flags = .none
  bare : other.IsBare

namespace Frame.Ungroups

variable {frame other : Frame}

/-- One item after the other. -/
theorem flatMap_parts {items others : List Item} (each : List.Forall₂ Item.Ungroups items others) :
    (Expr.sequence (items.flatMap Item.parts)).Ungroups
      (Expr.sequence (others.flatMap Item.parts)) := by
  induction each with
  | nil => exact .empty
  | cons first _ ih => exact first.parts.append ih

/-- The branches that are being read. -/
theorem branch (ungroups : frame.Ungroups other) :
    (Expr.sequence frame.branch).Ungroups (Expr.sequence other.branch) :=
  flatMap_parts (List.forall₂_reverse_iff.2 ungroups.items)

/-- All branches. -/
theorem expr (ungroups : frame.Ungroups other) : frame.expr.Ungroups other.expr := by
  have each := List.rel_append (List.forall₂_reverse_iff.2 ungroups.branches)
    (.cons ungroups.branch .nil)
  exact Expr.Ungroups.alternation each (by simp)

/-- One more item. -/
theorem cons (ungroups : frame.Ungroups other) {item item' : Item} (first : item.Ungroups item')
    {items others : List Item} (rest : List.Forall₂ Item.Ungroups items others) :
    ({ frame with items := item :: items } : Frame).Ungroups
      { other with items := item' :: others } :=
  ⟨ungroups.kind, ungroups.shown, ungroups.branches, .cons first rest⟩

end Frame.Ungroups

/-- A part that is repeated by a quantifier after it. -/
theorem Item.Ungroups.part {expr other : Expr} (ungroups : expr.Ungroups other)
    (repeats : (Item.part expr).isRepeatable = true → (Item.part other).isRepeatable = true) :
    (Item.part expr).Ungroups (.part other) := ⟨ungroups.single, repeats⟩

namespace Reader.Ungroups

variable {reader other next : Reader} {lexeme : Lexeme} {position : Nat}

/-- What a closed group adds. -/
theorem closedItem (ungroups : reader.Ungroups other) :
    reader.closedItem.Ungroups other.closedItem := by
  have body := ungroups.frame.expr
  have kinds := ungroups.frame.kind
  generalize kind : reader.frame.kind = first at kinds
  generalize kind' : other.frame.kind = second at kinds
  cases kinds with
  | whole | plain =>
    simp only [Reader.closedItem, kind, kind']
    exact ⟨body, fun _ => rfl⟩
  | capture index =>
    simp only [Reader.closedItem, kind, kind']
    exact ⟨body.group index, fun _ => rfl⟩
  | atomic =>
    simp only [Reader.closedItem, kind, kind']
    exact .part body.atomic fun _ => rfl
  | ahead negated =>
    simp only [Reader.closedItem, kind, kind']
    exact .part (body.ahead negated) fun _ => rfl
  | behind negated =>
    simp only [Reader.closedItem, kind, kind']
    exact .part (body.behind negated _ _) fun _ => rfl

/-- What changes in the innermost group changes in both. -/
theorem withFrame (ungroups : reader.Ungroups other) {frame frame' : Frame}
    (each : frame.Ungroups frame') :
    ({ reader with frame := frame } : Reader).Ungroups { other with frame := frame' } where
  frame := each
  outer := ungroups.outer
  flags := ungroups.flags
  bare := ⟨ungroups.bare.flags, ungroups.bare.alphabets, ungroups.bare.widths,
    ungroups.bare.references⟩

/-- Another branch begins. -/
theorem nextBranch (ungroups : reader.Ungroups other) :
    reader.nextBranch.Ungroups other.nextBranch :=
  ungroups.withFrame ⟨ungroups.frame.kind, ungroups.frame.shown,
    .cons ungroups.frame.branch ungroups.frame.branches, .nil⟩

/-- A group is opened. -/
theorem openFrame (ungroups : reader.Ungroups other) {kind kind' : FrameKind}
    (kinds : kind.Ungroups kind') (start start' : Nat) :
    (reader.openFrame kind start reader.frame.verbose).Ungroups
      (other.openFrame kind' start' other.frame.verbose) where
  frame := ⟨kinds, ungroups.frame.shown, .nil, .nil⟩
  outer := .cons ungroups.frame ungroups.outer
  flags := ungroups.flags
  bare := ⟨ungroups.bare.flags, ungroups.bare.alphabets, ungroups.bare.widths,
    ungroups.bare.references⟩

/-- A group is opened that remembers nothing. -/
theorem inside (ungroups : reader.Ungroups other) (head : Opening) (start start' : Nat) :
    (head.inside reader start).Ungroups (head.inside other start') := by
  cases head with
  | plain => exact ungroups.openFrame .plain start start'
  | ahead negated => exact ungroups.openFrame (.ahead negated) start start'
  | atomic => exact ungroups.openFrame .atomic start start'
  | behind negated =>
    -- The limit for references in a look-behind counts groups, and plays no part in the relation.
    have limited : ({ reader with
        behindLimit := some (reader.behindLimit.getD (reader.widths.length + 1)) } :
        Reader).Ungroups { other with
        behindLimit := some (other.behindLimit.getD (other.widths.length + 1)) } :=
      ⟨ungroups.frame, ungroups.outer, ungroups.flags, ungroups.bare.flags,
        ungroups.bare.alphabets, ungroups.bare.widths, ungroups.bare.references⟩
    exact limited.openFrame (.behind negated _ _) start start'

/-- A group that remembers what it matches is opened as one that does not. -/
theorem openCapture (ungroups : reader.Ungroups other) (start start' : Nat) :
    (reader.openCapture start).Ungroups
      (other.openFrame .plain start' other.frame.verbose) := by
  have counted : ({ reader with widths := reader.widths ++ [none] } : Reader).Ungroups other :=
    ⟨ungroups.frame, ungroups.outer, ungroups.flags, ungroups.bare⟩
  exact counted.openFrame (.capture _) start start'

end Reader.Ungroups

/-- A reader that knows of no groups knows of none when one is closed. -/
theorem Reader.IsBare.closeFrame {reader : Reader} (bare : reader.IsBare) (outermost : Frame)
    (outer : List Frame) : (reader.closeFrame outermost outer).IsBare where
  flags := bare.flags
  alphabets := bare.alphabets
  widths := by
    simp only [Reader.closeFrame, bare.widths]
    split <;> rfl
  references := bare.references

/-- The innermost group is closed. -/
theorem Reader.Ungroups.exists_closeFrame {reader other : Reader} {outermost : Frame}
    {outer : List Frame} (ungroups : reader.Ungroups other)
    (inside : reader.outer = outermost :: outer) :
    ∃ outermost' outer', other.outer = outermost' :: outer' ∧
      (reader.closeFrame outermost outer).Ungroups (other.closeFrame outermost' outer') := by
  have around := ungroups.outer
  rw [inside] at around
  generalize inside' : other.outer = all at around
  cases around with
  | @cons _ outermost' _ outer' first rest =>
    exact ⟨outermost', outer', rfl, first.cons ungroups.closedItem first.items, rest,
      ungroups.flags, ungroups.bare.closeFrame outermost' outer'⟩

/-- The lexeme without a group that remembers what it matches. -/
def Lexeme.bare : Lexeme → Lexeme
  | capture => opening .plain
  | lexeme => lexeme

/-- A lexeme does the same to both readers. -/
theorem Reader.Ungroups.act {reader other next : Reader} {lexeme : Lexeme} {position : Nat}
    {left tokens : List Token} (ungroups : reader.Ungroups other)
    (spells : lexeme.Spells left tokens) (acts : lexeme.act position reader = some next)
    (tame : next.All isTame) (place : Nat) :
    ∃ after, lexeme.bare.act place other = some after ∧ next.Ungroups after := by
  cases spells with
  | part expr plain | set expr plain =>
    obtain rfl := Option.some.inj acts
    have first := (Frame.all_cons.1 (tame _ (List.mem_cons_self ..))).1
    have own : expr.Ungroups expr := .plain plain (by simpa [Item.parts] using first)
    exact ⟨_, rfl, ungroups.withFrame (ungroups.frame.cons (.part own id) ungroups.frame.items)⟩
  | repetition least most appetite =>
    obtain ⟨item, items, cut, free, rfl⟩ := Lexeme.act_repetition_eq.1 acts
    have loop := (Frame.all_cons.1 (tame _ (List.mem_cons_self ..))).1
    have each := ungroups.frame.items
    rw [cut] at each
    generalize cut' : other.frame.items = all at each
    cases each with
    | @cons _ item' _ items' first rest =>
    have looped : (Expr.loop least most appetite (.sequence item.parts)).Ungroups
        (.loop least most appetite (.sequence item'.parts)) :=
      first.parts.loop (by simpa [Item.parts] using loop)
    refine ⟨_, Lexeme.act_repetition_eq.2 ⟨item', items', cut', first.repeats free, rfl⟩, ?_⟩
    exact ungroups.withFrame (ungroups.frame.cons (.part looped id) rest)
  | bar =>
    obtain ⟨-, rfl⟩ := Lexeme.act_bar_eq.1 acts
    have free (index : Nat) (conditional : other.frame.kind = .conditional index) :
        other.frame.branches = [] := absurd conditional (ungroups.frame.kind.ne_conditional _)
    exact ⟨other.nextBranch, Lexeme.act_bar_eq.2 ⟨free, rfl⟩, ungroups.nextBranch⟩
  | opening head =>
    obtain rfl := Option.some.inj acts
    exact ⟨head.inside other place, rfl, ungroups.inside head position place⟩
  | capture =>
    obtain rfl := Option.some.inj acts
    exact ⟨_, rfl, ungroups.openCapture position place⟩
  | closing =>
    obtain ⟨outermost, outer, inside, rfl⟩ := Lexeme.act_closing_eq.1 acts
    obtain ⟨outermost', outer', inside', closed⟩ := ungroups.exists_closeFrame inside
    exact ⟨other.closeFrame outermost' outer',
      Lexeme.act_closing_eq.2 ⟨outermost', outer', inside', rfl⟩, closed⟩
  | comment =>
    obtain rfl := Option.some.inj acts
    exact ⟨other, rfl, ungroups⟩

end RoutePattern.Regex
