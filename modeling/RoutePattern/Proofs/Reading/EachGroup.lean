import RoutePattern.Proofs.Reading.Ground

/-!
# What is known of each group

Something may be known of the number and the body of each group of an expression
(`Expr.EachGroup`). Whatever a source makes of its groups, it never changes a group once it is
closed, so what is known of the groups that a reader holds is known of those of the expression
(`Scan.Reaches.guards`), as long as it holds of every group that is closed later. In particular, no
two groups have the same number: each is numbered by the count of the groups opened up to its own
(`Scan.Reaches.counts`).
-/
namespace RoutePattern.Regex

variable {holds more : Nat → Expr → Prop}

namespace Expr

/-- Something holds of the number and the body of each group of an expression. -/
def EachGroup (holds : Nat → Expr → Prop) : Expr → Prop
  | group index body => holds index body ∧ body.EachGroup holds
  | seq first second | alt first second | ifGroup _ first second =>
    first.EachGroup holds ∧ second.EachGroup holds
  | flagged _ body | atomic body | ahead _ body | behind _ _ body | loop _ _ _ body =>
    body.EachGroup holds
  | empty | char _ | notChar _ | any | set .. | anchor _ | again _ => True

/-- Of no groups everything holds. -/
theorem eachGroup_of_free {expr : Expr} (free : expr.groupCount = 0) : expr.EachGroup holds := by
  induction expr with
  | empty | char _ | notChar _ | any | set _ _ | anchor _ | again _ => trivial
  | group index body => exact absurd free (Nat.succ_ne_zero _)
  | seq first second one two | alt first second one two | ifGroup _ first second one two =>
    obtain ⟨freeOne, freeTwo⟩ := Nat.add_eq_zero_iff.1 free
    exact ⟨one freeOne, two freeTwo⟩
  | flagged _ body ih | atomic body ih | ahead _ body ih | behind _ _ body ih
  | loop _ _ _ body ih => exact ih free

/-- Less may be asked for. -/
theorem EachGroup.mono {expr : Expr} (each : expr.EachGroup holds)
    (less : ∀ index body, holds index body → more index body) : expr.EachGroup more := by
  induction expr with
  | empty | char _ | notChar _ | any | set _ _ | anchor _ | again _ => trivial
  | group index body ih => exact ⟨less index body each.1, ih each.2⟩
  | seq first second one two | alt first second one two | ifGroup _ first second one two =>
    exact ⟨one each.1, two each.2⟩
  | flagged _ body ih | atomic body ih | ahead _ body ih | behind _ _ body ih
  | loop _ _ _ body ih => exact ih each

end Expr

/-- Something holds of each group of a row of expressions. -/
def EachGroup (holds : Nat → Expr → Prop) (parts : List Expr) : Prop :=
  ∀ part ∈ parts, part.EachGroup holds

namespace EachGroup

variable {parts : List Expr}

/-- The groups of expressions one after the other. -/
theorem sequence (each : EachGroup holds parts) : (Expr.sequence parts).EachGroup holds := by
  induction parts with
  | nil => trivial
  | cons part parts ih =>
    obtain ⟨first, others⟩ := List.forall_mem_cons.1 each
    exact ⟨first, ih others⟩

/-- The groups of one expression. -/
theorem singleton {part : Expr} (each : part.EachGroup holds) : EachGroup holds [part] :=
  List.forall_mem_singleton.2 each

/-- The groups of two rows. -/
theorem append_iff {one two : List Expr} :
    EachGroup holds (one ++ two) ↔ EachGroup holds one ∧ EachGroup holds two :=
  List.forall_mem_append

/-- The groups of expressions to be tried in order. -/
theorem choice {first : Expr} {others : List Expr} (each : EachGroup holds (first :: others)) :
    (Expr.choice first others).EachGroup holds := by
  induction others generalizing first with
  | nil => exact each first (List.mem_singleton_self _)
  | cons second others ih =>
    obtain ⟨one, rest⟩ := List.forall_mem_cons.1 each
    exact ⟨one, ih rest⟩

/-- The groups of the branches are those of what all begin with and of what remains of each. -/
theorem factor {first : List Expr} {others : List (List Expr)}
    (each : ∀ branch ∈ first :: others, EachGroup holds branch) :
    EachGroup holds (Expr.factor first others).1 ∧
      ∀ branch ∈ (Expr.factor first others).2, EachGroup holds branch := by
  have whole := @Expr.factor_append first others
  have both : ∀ branch ∈ (Expr.factor first others).2,
      EachGroup holds ((Expr.factor first others).1 ++ branch) := by
    intro branch found
    refine each _ ?_
    rw [← whole]
    exact List.mem_map_of_mem found
  refine ⟨?_, fun branch found => (append_iff.1 (both branch found)).2⟩
  have member := List.mem_cons_self (l := others) (a := first)
  rw [← whole] at member
  obtain ⟨branch, found, -⟩ := List.mem_map.1 member
  exact (append_iff.1 (both branch found)).1

/-- The groups of an alternation are those of its branches. -/
theorem alternation {branches : List (List Expr)}
    (each : ∀ branch ∈ branches, EachGroup holds branch) :
    EachGroup holds (Expr.alternation branches) := by
  fun_cases Expr.alternation branches with
  | case1 => simp [EachGroup]
  | case2 branch => exact each branch (List.mem_singleton_self _)
  | case3 first others _ common rest factored items single =>
    have shared := (factor each).1
    rw [factored] at shared
    exact append_iff.2 ⟨shared, singleton trivial⟩
  | case4 first others _ common rest factored one more mapped _ =>
    have both := factor each
    rw [factored] at both
    refine append_iff.2 ⟨both.1, singleton (choice ?_)⟩
    rw [← mapped]
    exact List.forall_mem_map.2 fun branch found => (both.2 branch found).sequence
  | case5 first others _ common rest factored mapped _ =>
    have shared := (factor each).1
    rw [factored] at shared
    exact shared

end EachGroup

/-- Something holds of each group that an open group holds. -/
structure Frame.EachGroup (holds : Nat → Expr → Prop) (frame : Frame) : Prop where
  branches : ∀ branch ∈ frame.branches, Regex.EachGroup holds branch
  items : ∀ item ∈ frame.items, Regex.EachGroup holds item.parts

namespace Frame

variable {frame next : Frame}

/-- The branch that is being read. -/
theorem EachGroup.branch (each : frame.EachGroup holds) : Regex.EachGroup holds frame.branch := by
  intro part found
  obtain ⟨item, member, inside⟩ := List.mem_flatMap.1 found
  exact each.items item (List.mem_reverse.1 member) part inside

/-- All branches together. -/
theorem EachGroup.parts (each : frame.EachGroup holds) : Regex.EachGroup holds frame.parts := by
  refine .alternation fun branch found => ?_
  rcases List.mem_append.1 found with earlier | last
  · exact each.branches branch (List.mem_reverse.1 earlier)
  · rw [List.mem_singleton.1 last]
    exact each.branch

/-- One more item. -/
theorem EachGroup.cons (each : frame.EachGroup holds) {item : Item}
    (own : Regex.EachGroup holds item.parts) :
    ({ frame with items := item :: frame.items } : Frame).EachGroup holds :=
  ⟨each.branches, List.forall_mem_cons.2 ⟨own, each.items⟩⟩

/-- A token inside a group closes no group. -/
theorem Edits.eachGroup (edits : frame.Edits next) (each : frame.EachGroup holds) :
    next.EachGroup holds := by
  cases edits with
  | nothing => exact each
  | adds expr free => exact each.cons (.singleton (Expr.eachGroup_of_free free))
  | @repeats item items latest =>
    have own := each.items
    rw [latest] at own
    obtain ⟨first, others⟩ := List.forall_mem_cons.1 own
    exact ⟨each.branches, List.forall_mem_cons.2 ⟨.singleton first.sequence, others⟩⟩
  | splits allowed => exact ⟨List.forall_mem_cons.2 ⟨each.branch, each.branches⟩, by simp⟩

end Frame

namespace Reader

variable {reader next : Reader} {position : Nat}

/-- Something holds of each group that has been closed, and will hold of those that are open,
whatever their bodies. -/
structure Guards (holds : Nat → Expr → Prop) (reader : Reader) : Prop where
  closed : ∀ frame ∈ reader.frame :: reader.outer, frame.EachGroup holds
  unclosed : ∀ frame ∈ reader.frame :: reader.outer, ∀ index, frame.kind = .capture index →
    ∀ body, holds index body

/-- Less may be asked for. -/
theorem Guards.mono (guards : reader.Guards holds)
    (less : ∀ index body, holds index body → more index body) : reader.Guards more where
  closed frame found :=
    have each := guards.closed frame found
    ⟨fun branch member part inside => (each.branches branch member part inside).mono less,
      fun item member part inside => (each.items item member part inside).mono less⟩
  unclosed frame found index kind body := less index body (guards.unclosed frame found index kind body)

/-- One more part of the branch that is being read. -/
theorem Guards.push (guards : reader.Guards holds) {expr : Expr} (each : expr.EachGroup holds) :
    (reader.push expr).Guards holds := by
  obtain ⟨innermost, around⟩ := List.forall_mem_cons.1 guards.closed
  obtain ⟨own, others⟩ := List.forall_mem_cons.1 guards.unclosed
  exact ⟨List.forall_mem_cons.2 ⟨innermost.cons (.singleton each), around⟩,
    List.forall_mem_cons.2 ⟨own, others⟩⟩

/-- What a closed group adds to the branch around it. -/
theorem Guards.closedItem (guards : reader.Guards holds) :
    EachGroup holds reader.closedItem.parts := by
  have each := guards.closed reader.frame (List.mem_cons_self ..)
  have body : reader.frame.expr.EachGroup holds := each.parts.sequence
  have branch := each.branch.sequence
  cases kind : reader.frame.kind with
  | whole | plain =>
    simp only [Reader.closedItem, kind]
    exact each.parts
  | capture index =>
    simp only [Reader.closedItem, kind]
    exact .singleton ⟨guards.unclosed _ (List.mem_cons_self ..) index kind _, body⟩
  | flagged _ | atomic | ahead _ | behind _ _ =>
    simp only [Reader.closedItem, kind]
    exact .singleton body
  | conditional index =>
    simp only [Reader.closedItem, kind]
    cases branches : reader.frame.branches with
    | nil => exact .singleton ⟨branch, trivial⟩
    | cons yes more =>
      have first := (each.branches yes (by simp [branches])).sequence
      exact .singleton ⟨first, branch⟩

/-- A token opens at most one group that remembers what it matches. -/
theorem Effect.widths_eq (effect : reader.Effect position next) :
    next.widths.length = reader.widths.length ∨
      next.widths.length = reader.widths.length + 1 := by
  cases effect.moves with
  | stays _ _ _ _ widths | opens _ _ _ _ widths | closes _ _ _ _ widths => exact .inl widths
  | captures _ _ _ _ widths => exact .inr widths

/-- A token leaves the groups that have been closed as they are. -/
theorem Guards.effect (guards : reader.Guards holds) (effect : reader.Effect position next)
    (fresh : next.widths.length = reader.widths.length + 1 →
      ∀ body, holds (reader.widths.length + 1) body) : next.Guards holds := by
  obtain ⟨innermost, around⟩ := List.forall_mem_cons.1 guards.closed
  obtain ⟨own, others⟩ := List.forall_mem_cons.1 guards.unclosed
  -- Only a group that remembers what it matches is numbered, and it holds when it opens, before
  -- its body is known.
  cases effect with
  | edits frame outer =>
    refine ⟨List.forall_mem_cons.2 ⟨frame.eachGroup innermost, outer ▸ around⟩,
      List.forall_mem_cons.2 ⟨fun index kind => ?_, outer ▸ others⟩⟩
    exact own index (frame.same.1 ▸ kind)
  | sets _ _ _ _ frame outer =>
    refine ⟨List.forall_mem_cons.2 ⟨?_, outer ▸ around⟩,
      List.forall_mem_cons.2 ⟨fun index kind => ?_, outer ▸ others⟩⟩
    · rw [frame]
      exact ⟨innermost.branches, innermost.items⟩
    · rw [frame] at kind
      exact own index kind
  | opens kind _ plain frame outer =>
    refine ⟨List.forall_mem_cons.2 ⟨?_, outer ▸ guards.closed⟩,
      List.forall_mem_cons.2 ⟨fun index same => ?_, outer ▸ guards.unclosed⟩⟩
    · rw [frame]
      exact ⟨by simp, by simp⟩
    · rw [frame] at same
      exact absurd same (plain index)
  | captures _ frame outer widths =>
    refine ⟨List.forall_mem_cons.2 ⟨?_, outer ▸ guards.closed⟩,
      List.forall_mem_cons.2 ⟨fun index same => ?_, outer ▸ guards.unclosed⟩⟩
    · rw [frame]
      exact ⟨by simp, by simp⟩
    · rw [frame] at same
      rw [← FrameKind.capture.inj same]
      exact fresh (by rw [widths, List.length_append, List.length_singleton])
  | @closes outermost outer inside same =>
    subst same
    rw [inside] at around others
    obtain ⟨second, rest⟩ := List.forall_mem_cons.1 around
    obtain ⟨outermostKind, elsewhere⟩ := List.forall_mem_cons.1 others
    exact ⟨List.forall_mem_cons.2 ⟨second.cons guards.closedItem, rest⟩,
      List.forall_mem_cons.2 ⟨outermostKind, elsewhere⟩⟩

/-- Each group is numbered by the count of the groups opened up to its own. -/
def Counts (reader : Reader) : Prop :=
  reader.Guards fun index _ => 0 < index ∧ index ≤ reader.widths.length

/-- In front of a source there are no groups. -/
theorem counts_start (flags : Flags) : (Reader.start flags).Counts where
  closed := List.forall_mem_singleton.2 ⟨List.forall_mem_nil _, List.forall_mem_nil _⟩
  unclosed := List.forall_mem_singleton.2 fun _ kind => FrameKind.noConfusion kind

/-- A token that opens a group gives it the next number. -/
theorem Counts.effect (counts : reader.Counts) (effect : reader.Effect position next) :
    next.Counts := by
  have widths := effect.widths_eq
  have wider : reader.Guards fun index _ => 0 < index ∧ index ≤ next.widths.length :=
    counts.mono fun index _ ⟨positive, bound⟩ => ⟨positive, by omega⟩
  exact wider.effect effect fun grown _ => ⟨Nat.succ_pos _, Nat.le_of_eq grown.symm⟩

end Reader

namespace Scan

variable {one two : Scan}

/-- Each group is numbered by the count of the groups opened up to its own. -/
theorem Reaches.counts (reaches : one.Reaches two) (counts : one.reader.Counts) :
    two.reader.Counts := by
  induction reaches with
  | refl => exact counts
  | tail _ next ih => exact ih.effect (effect_of_next? next)

/-- What is known of the groups that are closed is known of them later. -/
theorem Reaches.guards (reaches : one.Reaches two) (guards : one.reader.Guards holds)
    (fresh : ∀ index body, one.reader.widths.length < index → holds index body) :
    two.reader.Guards holds ∧ one.reader.widths.length ≤ two.reader.widths.length := by
  induction reaches with
  | refl => exact ⟨guards, Nat.le_refl _⟩
  | tail _ next ih =>
    obtain ⟨kept, wider⟩ := ih
    have effect := effect_of_next? next
    have widths := effect.widths_eq
    exact ⟨kept.effect effect fun _ body => fresh _ body (Nat.lt_succ_of_le wider), by omega⟩

end Scan

end RoutePattern.Regex
