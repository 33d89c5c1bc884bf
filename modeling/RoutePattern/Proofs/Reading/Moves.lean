import RoutePattern.Proofs.Reading.Effect
import RoutePattern.Proofs.Reading.GroupCount

/-!
# What a token does to the open groups

A token that is read does one of four things to the stack of open groups: it changes what the
innermost one holds, it opens one that remembers nothing, it opens one that remembers what it
matches, or it closes the innermost one (`readToken_moves`). Where no group remembers what it
matches, none of them brings one about but the third.
-/
namespace RoutePattern.Regex

/-! ## Parts without groups -/

/-- No expression of a row remembers what it matches. -/
def GroupFree (parts : List Expr) : Prop := ∀ part ∈ parts, part.groupCount = 0

/-- A row without groups is one expression without groups. -/
theorem groupFree_iff {parts : List Expr} :
    GroupFree parts ↔ (Expr.sequence parts).groupCount = 0 := by
  rw [Expr.groupCount_sequence, List.sum_eq_zero_iff_forall_eq_nat]
  simp [GroupFree]

/-- A row without groups is one expression without groups. -/
theorem GroupFree.sequence {parts : List Expr} (free : GroupFree parts) :
    (Expr.sequence parts).groupCount = 0 := groupFree_iff.1 free

/-- One expression without groups is a row without groups. -/
theorem GroupFree.singleton {part : Expr} (free : part.groupCount = 0) : GroupFree [part] := by
  intro other found
  rw [List.mem_singleton.1 found]
  exact free

/-- An alternation of branches without groups has no groups. -/
theorem GroupFree.alternation {branches : List (List Expr)}
    (free : ∀ branch ∈ branches, GroupFree branch) : GroupFree (Expr.alternation branches) := by
  rw [groupFree_iff, Expr.groupCount_alternation, List.sum_eq_zero_iff_forall_eq_nat]
  intro count found
  obtain ⟨branch, member, rfl⟩ := List.mem_map.1 found
  exact (free branch member).sequence

namespace Frame

/-- The group remembers what it matches. -/
def isCapture (frame : Frame) : Bool :=
  match frame.kind with
  | .capture _ => true
  | _ => false

/-- Nothing that has been read inside the group remembers what it matches. -/
structure IsFree (frame : Frame) : Prop where
  branches : ∀ branch ∈ frame.branches, GroupFree branch
  items : ∀ item ∈ frame.items, GroupFree item.parts

variable {frame : Frame}

/-- The branch that is being read has no groups. -/
theorem IsFree.branch (free : frame.IsFree) : GroupFree frame.branch := by
  intro part found
  obtain ⟨item, member, inside⟩ := List.mem_flatMap.1 found
  exact free.items item (List.mem_reverse.1 member) part inside

/-- All branches together have no groups. -/
theorem IsFree.parts (free : frame.IsFree) : GroupFree frame.parts := by
  refine GroupFree.alternation fun branch found => ?_
  rcases List.mem_append.1 found with earlier | last
  · exact free.branches branch (List.mem_reverse.1 earlier)
  · rw [List.mem_singleton.1 last]
    exact free.branch

/-- One more item without groups. -/
theorem IsFree.cons (free : frame.IsFree) {item : Item} (plain : GroupFree item.parts) :
    ({ frame with items := item :: frame.items } : Frame).IsFree where
  branches := free.branches
  items := by
    intro other found
    rcases List.mem_cons.1 found with rfl | found
    · exact plain
    · exact free.items other found

end Frame

/-- Whatever a token changes inside a group, the group stays what it was. -/
theorem Frame.Edits.same {frame next : Frame} (edits : frame.Edits next) :
    next.kind = frame.kind ∧ next.start = frame.start := by
  cases edits <;> exact ⟨rfl, rfl⟩

/-- A token inside a group adds nothing that remembers what it matches. -/
theorem Frame.Edits.isFree {frame next : Frame} (edits : frame.Edits next) (free : frame.IsFree) :
    next.IsFree := by
  cases edits with
  | nothing => exact free
  | adds expr plain => exact free.cons (.singleton plain)
  | @repeats item items latest =>
    refine ⟨free.branches, List.forall_mem_cons.2 ⟨?_, fun other found => ?_⟩⟩
    · exact .singleton (free.items item (by rw [latest]; exact List.mem_cons_self ..)).sequence
    · exact free.items other (by rw [latest]; exact List.mem_cons_of_mem _ found)
  | splits allowed => exact ⟨List.forall_mem_cons.2 ⟨free.branch, free.branches⟩, by simp⟩

namespace Reader

variable {reader next : Reader} {position : Nat}

/-- What a closed group without groups inside adds to the branch around it, if it remembers nothing
itself. -/
theorem closedItem_free (free : reader.frame.IsFree) (plain : reader.frame.isCapture = false) :
    GroupFree reader.closedItem.parts := by
  have body : reader.frame.expr.groupCount = 0 := free.parts.sequence
  have branch := free.branch.sequence
  cases kind : reader.frame.kind with
  | capture index =>
    rw [Frame.isCapture, kind] at plain
    exact absurd plain.symm Bool.false_ne_true
  | whole | plain =>
    simp only [closedItem, kind]
    exact free.parts
  | flagged change =>
    simp only [closedItem, kind]
    exact .singleton body
  | atomic =>
    simp only [closedItem, kind]
    exact .singleton body
  | ahead negated =>
    simp only [closedItem, kind]
    exact .singleton body
  | behind negated outermost =>
    simp only [closedItem, kind]
    exact .singleton body
  -- A condition has one branch or two, and without a second one the first is still being read.
  | conditional index =>
    simp only [closedItem, kind]
    cases branches : reader.frame.branches with
    | nil => exact .singleton (by simp [Expr.groupCount, branch])
    | cons yes more =>
      have first := (free.branches yes (by simp [branches])).sequence
      exact .singleton (by simp [Expr.groupCount, branch, first])

/-- What a token at a position does to the open groups. -/
inductive Moves (position : Nat) (reader next : Reader) : Prop
  /-- The innermost group stays open. -/
  | stays (outer : next.outer = reader.outer) (kind : next.frame.kind = reader.frame.kind)
    (start : next.frame.start = reader.frame.start)
    (free : reader.frame.IsFree → next.frame.IsFree)
    (widths : next.widths.length = reader.widths.length) (names : next.names = reader.names)
  /-- A group is opened that remembers nothing. -/
  | opens (outer : next.outer = reader.frame :: reader.outer)
    (start : next.frame.start = position) (free : next.frame.IsFree)
    (plain : next.frame.isCapture = false)
    (widths : next.widths.length = reader.widths.length) (names : next.names = reader.names)
  /-- A group is opened that remembers what it matches, perhaps with a name. -/
  | captures (outer : next.outer = reader.frame :: reader.outer)
    (start : next.frame.start = position) (free : next.frame.IsFree)
    (kind : next.frame.kind = .capture (reader.widths.length + 1))
    (widths : next.widths.length = reader.widths.length + 1)
    (names : reader.names <+: next.names)
  /-- The innermost group is closed. -/
  | closes {outermost : Frame} (outer : reader.outer = outermost :: next.outer)
    (kind : next.frame.kind = outermost.kind) (start : next.frame.start = outermost.start)
    (free : reader.frame.isCapture = false → reader.frame.IsFree → outermost.IsFree →
      next.frame.IsFree)
    (widths : next.widths.length = reader.widths.length) (names : next.names = reader.names)

/-- The innermost group is closed. -/
theorem moves_closeFrame {outermost : Frame} {outer : List Frame}
    (inside : reader.outer = outermost :: outer) :
    reader.Moves position (reader.closeFrame outermost outer) := by
  refine .closes inside rfl rfl (fun plain free around => ?_) ?_ rfl
  · exact around.cons (closedItem_free free plain)
  · unfold closeFrame
    cases reader.frame.kind <;> simp

/-- What a token does to a reader it does to the open groups. -/
theorem Effect.moves (effect : reader.Effect position next) : reader.Moves position next := by
  cases effect with
  | edits frame outer widths names flags =>
    obtain ⟨kind, start⟩ := frame.same
    exact .stays outer kind start frame.isFree (congrArg List.length widths) names
  | sets verbose _ _ _ frame outer widths names =>
    refine .stays outer ?_ ?_ (fun free => ?_) (congrArg List.length widths) names
    · rw [frame]
    · rw [frame]
    · rw [frame]
      exact ⟨free.branches, free.items⟩
  | opens kind verbose plain frame outer widths names flags =>
    refine .opens outer ?_ ?_ ?_ (congrArg List.length widths) names
    · rw [frame]
    · rw [frame]
      exact ⟨by simp, by simp⟩
    · rw [frame]
      cases kind with
      | capture index => exact absurd rfl (plain index)
      | whole | plain | flagged _ | atomic | ahead _ | behind _ _ | conditional _ => rfl
  | captures verbose frame outer widths names flags =>
    refine .captures outer ?_ ?_ ?_ ?_ names
    · rw [frame]
    · rw [frame]
      exact ⟨by simp, by simp⟩
    · rw [frame]
    · rw [widths]
      simp
  | closes inside same =>
    subst same
    exact moves_closeFrame inside

/-- A token. -/
theorem readToken_moves (reader : Reader) (position : Nat) (token : Token) (cursor : Cursor) :
    Yields (reader.Moves position ·.1) (reader.readToken token position cursor) :=
  ⟨fun value same =>
    ((readToken_effect reader position token cursor).holds_of_ok value same).moves⟩

end Reader

end RoutePattern.Regex
