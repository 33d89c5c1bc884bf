import RoutePattern.Proofs.Reading.Moves

/-!
# What stays true while a source is read

Once something has been read outside of all parentheses, no flags of the whole expression can be
set any more (`Begun`). And at any time the groups that have been counted are those that the open
groups hold, together with the open groups themselves that remember what they match (`Counted`).
-/
namespace RoutePattern.Regex

namespace Frame

/-- The groups that an open group holds, and itself if it remembers what it matches. -/
def groupCount (frame : Frame) : Nat :=
  (frame.branches.map fun branch => (Expr.sequence branch).groupCount).sum +
    (frame.items.map fun item => (Expr.sequence item.parts).groupCount).sum +
    if frame.isCapture then 1 else 0

variable {frame next : Frame}

/-- The branch that is being read has the groups of its items. -/
theorem groupCount_branch (frame : Frame) : (Expr.sequence frame.branch).groupCount =
    (frame.items.map fun item => (Expr.sequence item.parts).groupCount).sum := by
  have row (items : List Item) : (Expr.sequence (items.flatMap Item.parts)).groupCount =
      (items.map fun item => (Expr.sequence item.parts).groupCount).sum := by
    induction items with
    | nil => rfl
    | cons item items ih =>
      rw [List.flatMap_cons, Expr.groupCount_sequence_append, ih, List.map_cons, List.sum_cons]
  rw [branch, row, List.map_reverse, List.sum_reverse]

/-- All branches together have the groups of the open group. -/
theorem groupCount_parts (frame : Frame) : (Expr.sequence frame.parts).groupCount +
    (if frame.isCapture then 1 else 0) = frame.groupCount := by
  rw [parts, Expr.groupCount_alternation, List.map_append, List.sum_append, List.map_reverse,
    List.sum_reverse, List.map_singleton, List.sum_singleton, groupCount_branch]
  rfl

/-- What a token changes inside a group adds no groups to it. -/
theorem Edits.groupCount_eq (edits : frame.Edits next) : next.groupCount = frame.groupCount := by
  cases edits with
  | nothing => rfl
  | adds expr free =>
    have one := Expr.groupCount_sequence [expr]
    rw [List.map_singleton, List.sum_singleton, free] at one
    simp only [groupCount, List.map_cons, List.sum_cons, Item.parts, one, Nat.zero_add]
    rfl
  | @repeats item items latest least most appetite =>
    simp only [groupCount, latest, List.map_cons, List.sum_cons]
    rfl
  | splits allowed =>
    simp only [groupCount, List.map_cons, List.sum_cons, groupCount_branch, List.map_nil,
      List.sum_nil, Nat.add_zero]
    rw [Nat.add_comm (frame.items.map _).sum]
    rfl

/-- A token inside a group does not change how blanks and comments are read. -/
theorem Edits.verbose_eq (edits : frame.Edits next) : next.verbose = frame.verbose := by
  cases edits <;> rfl

/-- A condition has at most two branches. -/
def IsSingle (frame : Frame) : Prop :=
  ∀ index, frame.kind = .conditional index → frame.branches.length ≤ 1

/-- What a token changes inside a group leaves a condition at most two branches. -/
theorem Edits.isSingle (edits : frame.Edits next) (single : frame.IsSingle) : next.IsSingle := by
  cases edits with
  | nothing => exact single
  | adds expr free => exact single
  | repeats latest => exact single
  | splits allowed =>
    intro index kind
    rw [List.length_cons, allowed index kind]
    exact Nat.le_refl _

end Frame

namespace Reader

variable {reader next : Reader} {position : Nat} {flags : Flags}

/-! ## Outside of all parentheses -/

/-- The group that is the whole expression. -/
def ground (reader : Reader) : Frame := reader.outer.getLastD reader.frame

/-- Something has been read outside of all parentheses, under flags that hold for good. -/
structure Begun (flags : Flags) (reader : Reader) : Prop where
  flags : reader.flags = flags
  whole : reader.ground.kind = .whole
  verbose : reader.ground.verbose = false
  given : reader.ground.items ≠ [] ∨ reader.ground.branches ≠ []

/-- Whatever a token changes inside a group, something is left of what has been read in it. -/
theorem given_of_edits {frame next : Frame} (edits : frame.Edits next)
    (given : frame.items ≠ [] ∨ frame.branches ≠ []) : next.items ≠ [] ∨ next.branches ≠ [] := by
  cases edits with
  | nothing => exact given
  | adds expr free => exact .inl (List.cons_ne_nil _ _)
  | repeats latest => exact .inl (List.cons_ne_nil _ _)
  | splits allowed => exact .inr (List.cons_ne_nil _ _)

/-- Where the innermost group changes, the whole expression does only if it is this group. -/
theorem ground_cases (outer : next.outer = reader.outer) :
    next.ground = reader.ground ∨ reader.ground = reader.frame ∧ next.ground = next.frame := by
  rw [ground, ground, outer]
  cases reader.outer with
  | nil => exact .inr ⟨rfl, rfl⟩
  | cons outermost others => exact .inl (by rw [List.getLastD_cons, List.getLastD_cons])

/-- One more open group leaves the whole expression as it is. -/
theorem ground_of_opened (outer : next.outer = reader.frame :: reader.outer) :
    next.ground = reader.ground := by
  rw [ground, outer, List.getLastD_cons, ← ground]

/-- A token leaves the flags as they are once something has been read. -/
theorem Begun.effect (begun : reader.Begun flags) (effect : reader.Effect position next) :
    next.Begun flags := by
  obtain ⟨known, whole, verbose, given⟩ := begun
  -- The outermost frame is the innermost one exactly where no group is open.
  cases effect with
  | edits frame outer _ _ same =>
    rcases ground_cases outer with kept | ⟨before, after⟩
    · exact ⟨same.trans known, kept ▸ whole, kept ▸ verbose, kept ▸ given⟩
    · rw [before] at whole verbose given
      refine ⟨same.trans known, ?_, ?_, ?_⟩
      · rw [after, frame.same.1]
        exact whole
      · rw [after, frame.verbose_eq]
        exact verbose
      · rw [after]
        exact given_of_edits frame given
  | sets _ outermost branches items =>
    rw [ground, outermost, List.getLastD_nil] at given
    exact absurd branches (given.resolve_left fun some => some items)
  | opens _ _ _ _ outer _ _ same =>
    have kept := ground_of_opened outer
    exact ⟨same.trans known, kept ▸ whole, kept ▸ verbose, kept ▸ given⟩
  | captures _ _ outer _ _ same =>
    have kept := ground_of_opened outer
    exact ⟨same.trans known, kept ▸ whole, kept ▸ verbose, kept ▸ given⟩
  | @closes outermost outer inside same =>
    subst same
    rw [ground, inside, List.getLastD_cons] at whole verbose given
    cases outer with
    | nil => exact ⟨known, whole, verbose, .inl (List.cons_ne_nil _ _)⟩
    | cons second others =>
      rw [List.getLastD_cons] at whole verbose given
      refine ⟨known, ?_, ?_, ?_⟩
      · rw [ground, closeFrame, List.getLastD_cons]
        exact whole
      · rw [ground, closeFrame, List.getLastD_cons]
        exact verbose
      · rw [ground, closeFrame, List.getLastD_cons]
        exact given

/-! ## Counted groups -/

/-- All groups that have been counted are open or held by an open group. -/
structure Counted (reader : Reader) : Prop where
  count : ((reader.frame :: reader.outer).map Frame.groupCount).sum = reader.widths.length
  single : ∀ frame ∈ reader.frame :: reader.outer, frame.IsSingle

/-- What a closed group adds to the branch around it has all groups of the group that was open. -/
theorem groupCount_closedItem (single : reader.frame.IsSingle) :
    (Expr.sequence reader.closedItem.parts).groupCount = reader.frame.groupCount := by
  have parts := reader.frame.groupCount_parts
  have one (expr : Expr) : (Expr.sequence [expr]).groupCount = expr.groupCount := Nat.add_zero _
  cases kind : reader.frame.kind with
  | whole | plain =>
    simp only [Frame.isCapture, kind] at parts
    simp only [closedItem, kind, Item.parts]
    exact parts
  | capture index =>
    simp only [Frame.isCapture, kind] at parts
    simp only [closedItem, kind, Item.parts, one]
    exact parts
  | flagged _ | atomic | ahead _ | behind _ _ =>
    simp only [Frame.isCapture, kind] at parts
    simp only [closedItem, kind, Item.parts, one]
    exact parts
  | conditional index =>
    have few := single index kind
    simp only [closedItem, kind]
    simp only [Frame.groupCount, Frame.isCapture, kind, ← Frame.groupCount_branch]
    cases branches : reader.frame.branches with
    | nil => simp [Item.parts, one, Expr.groupCount]
    | cons yes others =>
      rw [branches] at few
      cases others with
      | nil => simp [Item.parts, one, Expr.groupCount]
      | cons no more => exact absurd few (by simp)

/-- What a closed group has counted moves into the group around it. -/
theorem Counted.closeFrame (counted : reader.Counted) {outermost : Frame} {outer : List Frame}
    (inside : reader.outer = outermost :: outer) :
    (reader.closeFrame outermost outer).Counted := by
  obtain ⟨count, single⟩ := counted
  rw [inside] at count single
  obtain ⟨innermost, around⟩ := List.forall_mem_cons.1 single
  obtain ⟨second, others⟩ := List.forall_mem_cons.1 around
  have added : ({ outermost with items := reader.closedItem :: outermost.items } :
      Frame).groupCount = reader.frame.groupCount + outermost.groupCount := by
    simp only [Frame.groupCount, List.map_cons, List.sum_cons, groupCount_closedItem innermost]
    rw [show ({ outermost with items := reader.closedItem :: outermost.items } :
      Frame).isCapture = outermost.isCapture from rfl]
    omega
  have widths : (reader.closeFrame outermost outer).widths.length = reader.widths.length := by
    unfold Reader.closeFrame
    cases reader.frame.kind <;> simp
  refine ⟨?_, List.forall_mem_cons.2 ⟨second, others⟩⟩
  rw [List.map_cons, List.sum_cons, List.map_cons, List.sum_cons, ← Nat.add_assoc] at count
  rw [List.map_cons, List.sum_cons, widths, ← count]
  exact congrArg (· + _) added

/-- A token counts just the groups that it opens. -/
theorem Counted.effect (counted : reader.Counted) (effect : reader.Effect position next) :
    next.Counted := by
  have count := counted.count
  have single := counted.single
  rw [List.map_cons, List.sum_cons] at count
  obtain ⟨innermost, around⟩ := List.forall_mem_cons.1 single
  cases effect with
  | edits frame outer widths _ _ =>
    refine ⟨?_, ?_⟩
    · rw [List.map_cons, List.sum_cons, frame.groupCount_eq, outer, widths]
      exact count
    · rw [outer]
      exact List.forall_mem_cons.2 ⟨frame.isSingle innermost, around⟩
  | sets _ _ _ _ frame outer widths _ =>
    refine ⟨?_, ?_⟩
    · rw [List.map_cons, List.sum_cons, frame, outer, widths]
      exact count
    · rw [frame, outer]
      exact List.forall_mem_cons.2 ⟨innermost, around⟩
  | opens kind _ plain frame outer widths _ _ =>
    have none : next.frame.isCapture = false := by
      rw [frame]
      cases kind with
      | capture index => exact absurd rfl (plain index)
      | whole | plain | flagged _ | atomic | ahead _ | behind _ _ | conditional _ => rfl
    have empty : next.frame.groupCount = 0 := by
      rw [Frame.groupCount, none, frame]
      rfl
    refine ⟨?_, ?_⟩
    · rw [List.map_cons, List.sum_cons, empty, Nat.zero_add, outer, widths]
      exact count
    · rw [outer]
      refine List.forall_mem_cons.2 ⟨fun index _ => ?_, single⟩
      rw [frame]
      exact Nat.zero_le _
  | captures _ frame outer widths _ _ =>
    have itself : next.frame.groupCount = 1 := by
      rw [frame]
      rfl
    refine ⟨?_, ?_⟩
    · rw [List.map_cons, List.sum_cons, itself, outer, widths, List.length_append,
        List.length_singleton, Nat.add_comm 1]
      exact congrArg (· + 1) count
    · rw [outer]
      refine List.forall_mem_cons.2 ⟨fun index kind => ?_, single⟩
      rw [frame] at kind
      exact absurd kind (by simp)
  | closes inside same =>
    subst same
    exact counted.closeFrame inside

end Reader

namespace Scan

open Reader (Begun Counted)

variable {one two : Scan}

/-- A token that is read has an effect, and one that is passed over has none. -/
theorem effect_of_next? (next : one.next? = some two) :
    one.reader.Effect one.position two.reader := by
  obtain ⟨token, tokens, -, -, -, -, ⟨-, same⟩ | ⟨-, cursor, read, -⟩⟩ := next?_cases next
  · rw [same]
    exact .refl ..
  · exact (Reader.readToken_effect ..).holds_of_ok _ read

/-- Once something has been read, the flags stay as they are. -/
theorem Reaches.begun {flags : Flags} (reaches : one.Reaches two)
    (begun : one.reader.Begun flags) : two.reader.Begun flags := by
  induction reaches with
  | refl => exact begun
  | tail _ next ih => exact ih.effect (effect_of_next? next)

/-- The groups that have been counted stay those that are open or held by an open group. -/
theorem Reaches.counted (reaches : one.Reaches two) (counted : one.reader.Counted) :
    two.reader.Counted := by
  induction reaches with
  | refl => exact counted
  | tail _ next ih => exact ih.effect (effect_of_next? next)

end Scan

end RoutePattern.Regex
