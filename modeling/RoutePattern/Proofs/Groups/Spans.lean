import Mathlib.Algebra.GroupWithZero.Nat
import RoutePattern.Proofs.Groups.Row
import RoutePattern.Proofs.Matching.Ends

/-!
# The spans of a row of groups

A row of groups fills the slots of its groups one after the other (`Row.carries`), and each group is
opened no earlier than all before it have been closed. So the spans of a match stand in the order of
the groups and do not overlap, if no group is closed before it has been opened
(`isOrdered_of_row`). A steady expression never goes back, so that none is (`isForward_of_row`).
-/
namespace RoutePattern

open Regex

/-- The places where a group was last opened and last closed, if it has been both. -/
def Regex.Slot.places? (slot : Slot) : Option (Nat × Nat) :=
  match slot.opened, slot.closed with
  | some start, some stop => some (start, stop)
  | _, _ => none

/-- No span ends before it has begun. -/
def Forward (spans : List (Nat × Nat)) : Prop := ∀ span ∈ spans, span.1 ≤ span.2

/-- Spans of a text that stand one after the other. -/
structure InOrder (spans : List (Nat × Nat)) : Prop where
  forward : Forward spans
  apart : spans.Pairwise fun one two => one.2 ≤ two.1

/-- One more span after all others. -/
theorem InOrder.concat {spans : List (Nat × Nat)} (ordered : InOrder spans) {start stop : Nat}
    (forward : start ≤ stop) (later : ∀ span ∈ spans, span.2 ≤ start) :
    InOrder (spans ++ [(start, stop)]) where
  forward := by
    intro span found
    rcases List.mem_append.1 found with earlier | last
    · exact ordered.forward span earlier
    · rw [List.mem_singleton.1 last]
      exact forward
  apart := by
    rw [List.pairwise_append]
    refine ⟨ordered.apart, List.pairwise_singleton .., fun span earlier last found => ?_⟩
    rw [List.mem_singleton.1 found]
    exact later span earlier

/-- Where no group is closed before it has been opened, the spans of the groups are the places where
they were opened and closed. -/
theorem filterMap_span? {slots : List Slot} (forward : Forward (slots.filterMap Slot.places?)) :
    slots.filterMap Slot.span? = slots.filterMap Slot.places? := by
  induction slots with
  | nil => rfl
  | cons slot slots ih =>
    obtain ⟨opened, closed⟩ := slot
    cases opened with
    | none => exact ih forward
    | some start =>
      cases closed with
      | none => exact ih forward
      | some stop =>
        have places : (Slot.mk (some start) (some stop)).places? = some (start, stop) := rfl
        rw [List.filterMap_cons_some places] at forward ⊢
        obtain ⟨here, others⟩ := List.forall_mem_cons.1 forward
        have span : (Slot.mk (some start) (some stop)).span? = some (start, stop) := if_pos here
        rw [List.filterMap_cons_some span, ih others]

/-- The first groups are done and the others have not been opened. No group that is done has been
closed before it was opened, at least not if the expression is steady; and if none has been, they
stand one after the other up to the place. -/
structure Filled (steady : Bool) (groups : Nat) (done : List Slot) (state : State) : Prop where
  slots : state.slots = done ++ List.replicate (groups - done.length) .unset
  forward : steady = true → Forward (done.filterMap Slot.places?)
  ordered : Forward (done.filterMap Slot.places?) → InOrder (done.filterMap Slot.places?) ∧
    ∀ span ∈ done.filterMap Slot.places?, span.2 ≤ state.position

/-- So many groups are done. -/
def Passed (steady : Bool) (groups count : Nat) (state : State) : Prop :=
  ∃ done, done.length = count ∧ Filled steady groups done state

section Passed

variable {steady : Bool} {groups count : Nat} {state ended : State}

/-- A group that is passed over has no span. -/
theorem Passed.skip (passed : Passed steady groups count state) (more : count < groups) :
    Passed steady groups (count + 1) state := by
  obtain ⟨done, rfl, filled⟩ := passed
  have spans : (done ++ [Slot.unset]).filterMap Slot.places? = done.filterMap Slot.places? := by
    simp [Slot.places?, Slot.unset]
  have one : groups - done.length = groups - (done.length + 1) + 1 := by omega
  refine ⟨done ++ [.unset], by simp, ?_, ?_, ?_⟩
  · rw [filled.slots, List.append_assoc, List.length_append, one, List.replicate_succ]
    rfl
  · rw [spans]
    exact filled.forward
  · rw [spans]
    exact filled.ordered

/-- A state that is not earlier, with the same groups. -/
theorem Passed.kept (passed : Passed steady groups count state)
    (kept : Kept state.slots state.position .places ended) : Passed steady groups count ended := by
  obtain ⟨done, rfl, filled⟩ := passed
  refine ⟨done, rfl, kept.slots.trans filled.slots, filled.forward, fun forward => ?_⟩
  obtain ⟨ordered, before⟩ := filled.ordered forward
  exact ⟨ordered, fun span found => Nat.le_trans (before span found) (kept.place (by decide))⟩

/-- The place of a state may be noted. -/
theorem Passed.note (passed : Passed steady groups count state) :
    Passed steady groups count state.note :=
  passed.kept ⟨rfl, fun _ => Nat.le_refl _, fun _ => Nat.le_refl _⟩

/-- A group that is opened and closed again fills its slot. -/
theorem Passed.close (passed : Passed steady groups count state) (more : count < groups)
    (slots : ended.slots = (state.openGroup (count + 1)).slots)
    (later : steady = true → state.position ≤ ended.position) :
    Passed steady groups (count + 1) (ended.closeGroup (count + 1)) := by
  obtain ⟨done, rfl, filled⟩ := passed
  let slot : Slot := ⟨some state.position, some ended.position⟩
  -- The slot that closes is the first of those that are still unset.
  have one : groups - done.length = groups - (done.length + 1) + 1 := by omega
  have marked : (ended.closeGroup (done.length + 1)).slots =
      done ++ slot :: List.replicate (groups - (done.length + 1)) .unset := by
    simp only [State.closeGroup, slots, State.openGroup, filled.slots, one, List.replicate_succ,
      Nat.add_sub_cancel, modify_append_cons, slot]
  have places : slot.places? = some (state.position, ended.position) := rfl
  have spans : (done ++ [slot]).filterMap Slot.places? =
      done.filterMap Slot.places? ++ [(state.position, ended.position)] := by
    rw [List.filterMap_append, List.filterMap_cons_some places, List.filterMap_nil]
  refine ⟨done ++ [slot], by simp, ?_, ?_, ?_⟩
  · rw [marked, List.append_assoc, List.length_append]
    rfl
  · rw [spans]
    intro holds span found
    rcases List.mem_append.1 found with earlier | last
    · exact filled.forward holds span earlier
    · rw [List.mem_singleton.1 last]
      exact later holds
  · rw [spans]
    intro forward
    obtain ⟨ordered, before⟩ := filled.ordered fun span found =>
      forward span (List.mem_append_left _ found)
    have own : state.position ≤ ended.position :=
      forward _ (List.mem_append_right _ (List.mem_singleton_self _))
    refine ⟨ordered.concat own before, fun span found => ?_⟩
    rcases List.mem_append.1 found with earlier | last
    · exact Nat.le_trans (before span earlier) own
    · rw [List.mem_singleton.1 last]
      exact Nat.le_refl _

/-! ## Matchers -/

/-- A matcher that keeps the groups and the place passes no group. -/
theorem carries_of_keeps {body : Matcher} (keeps : body.Keeps .places) :
    body.Carries (fun _ => True) (Passed steady groups count) (Passed steady groups count) :=
  fun _ _ follows state passed =>
    keeps.meets (by decide) ⟨rfl, fun _ => Nat.le_refl _, fun wrong => absurd wrong (by decide)⟩
      fun later kept => follows later (passed.kept kept)

/-- A group around a matcher that keeps the groups passes its slot. -/
theorem carries_group {body : Matcher} (keeps : body.Keeps .groups)
    (forward : steady = true → body.Keeps .places) (more : count < groups) :
    (Matcher.group (count + 1) body).Carries (fun _ => True) (Passed steady groups count)
      (Passed steady groups (count + 1)) := by
  intro ends next follows state passed
  cases holds : steady with
  | true =>
    refine (forward holds).meets (by decide)
      ⟨rfl, fun _ => Nat.le_refl _, fun wrong => absurd wrong (by decide)⟩ fun ended kept => ?_
    exact follows _ (passed.close more kept.slots fun _ => kept.place (by decide))
  | false =>
    refine keeps.meets (by decide)
      ⟨rfl, fun _ => Nat.le_refl _, fun wrong => absurd wrong (by decide)⟩ fun ended kept => ?_
    exact follows _ (passed.close more kept.slots fun wrong => absurd (holds.symm.trans wrong)
      Bool.false_ne_true)

/-- An optional body that passes some groups passes them in any case. -/
theorem carries_optional {body : Matcher} {last : Nat}
    (carries : body.Carries (fun _ => True) (Passed steady groups count)
      (Passed steady groups last))
    (skips : ∀ state, Passed steady groups count state → Passed steady groups last state)
    (counted : Option Nat) :
    (Matcher.loop 0 (some 1) .greedy counted body).Carries (fun _ => True)
      (Passed steady groups count) (Passed steady groups last) := by
  intro ends next follows state passed
  have fewest : Matcher.required 0 counted state.toPlace = 0 := by
    cases counted <;> simp [Matcher.required]
  have stops (fuel : Nat) (latest : Option Nat) (state : State) :
      Matcher.greedy body 0 (some 1) (fuel + 1) 1 latest next state =
        (next state.note).failAt state.toPlace := by
    simp [Matcher.greedy, Matcher.mayRepeat]
  have after {state : State} (passed : Passed steady groups last state) :
      ((next state.note).failAt state.toPlace).Meets (fun _ => True) ends :=
    (follows _ passed.note).failAt trivial
  have once (fuel : Nat) :
      (Matcher.greedy body 0 (some 1) (fuel + 2) 0 none next state).Meets (fun _ => True) ends := by
    have meets := carries ends (Matcher.greedy body 0 (some 1) (fuel + 1) 1 (some state.position)
      next) (fun state passed => (stops fuel _ state).symm ▸ after passed) state.note passed.note
    rw [Matcher.greedy]
    beta_reduce
    rw [if_neg (Nat.lt_irrefl 0), if_pos (by simp [Matcher.mayRepeat])]
    split
    · next ended matched =>
      rw [matched] at meets
      exact meets
    · exact after (skips state passed)
  simp only [Matcher.loop, fewest]
  exact once _

end Passed

/-! ## Rows -/

section Rows

variable {steady : Bool} {groups : Nat} (flags : Flags)

/-- A group whose body has no groups passes its slot. -/
theorem carries_single {count : Nat} {body : Expr} (free : body.groupCount = 0)
    (more : count < groups) (holds : steady = true → body.isSteady false = true) (lead : Lead) :
    ((Expr.group (count + 1) body).matcher flags lead).Carries (fun _ => True)
      (Passed steady groups count) (Passed steady groups (count + 1)) := by
  have kept : body.Allows .groups := fun wrong => absurd rfl wrong
  have forward (given : steady = true) : body.Allows .places := fun _ => holds given
  exact carries_group (Expr.keeps_matcher free kept flags .undecided)
    (fun given => Expr.keeps_matcher free (forward given) flags .undecided) more

/-- Plain parts and a group after them pass the slot of the group. -/
theorem carries_led {count : Nat} {leads : List Expr} {body : Expr} (plain : Plain leads)
    (free : body.groupCount = 0) (more : count < groups)
    (holds : steady = true → body.isSteady false = true) (lead : Lead) :
    ((Expr.sequence (leads ++ [.group (count + 1) body])).matcher flags lead).Carries
      (fun _ => True) (Passed steady groups count) (Passed steady groups (count + 1)) := by
  induction leads with
  | nil =>
    exact (carries_single flags free more holds _).seq (Matcher.carries_id)
  | cons part leads ih =>
    exact (carries_of_keeps (plain.keeps flags _)).seq (ih (List.forall_mem_cons.1 plain).2)

namespace Row

/-- The groups of a row are counted on. -/
theorem le {parts : List Expr} {first last : Nat} (row : Row first parts last) : first ≤ last := by
  induction row with
  | nil => exact Nat.le_refl _
  | plain _ _ ih => exact ih
  | group _ _ ih => exact Nat.le_of_succ_le ih
  | optional _ _ _ ih => exact Nat.le_of_succ_le ih

/-- A row passes its groups one after the other. -/
theorem carries {parts : List Expr} {first last : Nat} (row : Row first parts last)
    (enough : last ≤ groups)
    (holds : steady = true → (Expr.sequence parts).isSteady false = true) (lead : Lead) :
    ((Expr.sequence parts).matcher flags lead).Carries (fun _ => True)
      (Passed steady groups first) (Passed steady groups last) := by
  have others {part : Expr} {parts : List Expr}
      (holds : steady = true → (Expr.sequence (part :: parts)).isSteady false = true)
      (given : steady = true) : (Expr.sequence parts).isSteady false = true :=
    (Bool.and_eq_true_iff.1 (holds given)).2
  induction row with
  | nil => exact Matcher.carries_id
  | plain plain _ ih =>
    exact (carries_of_keeps (plain.keeps flags _)).seq (ih enough (others holds))
  | group free row ih =>
    have more := Nat.lt_of_succ_le (Nat.le_trans row.le enough)
    have own (given : steady = true) := (Bool.and_eq_true_iff.1 (holds given)).1
    exact (carries_single flags free more own _).seq (ih enough (others holds))
  -- The loop around the group is run at most once, and a group that it passes over stays unset.
  | @optional first last leads body parts plain free row ih =>
    have more := Nat.lt_of_succ_le (Nat.le_trans row.le enough)
    have own (given : steady = true) : body.isSteady false = true := by
      have loop := (Bool.and_eq_true_iff.1 (Bool.and_eq_true_iff.1 (holds given)).1).1
      rw [Expr.isSteady_sequence, List.all_append, Bool.and_eq_true] at loop
      have last := loop.2
      rw [List.all_cons, Bool.and_eq_true] at last
      exact last.1
    refine Matcher.Carries.seq ?_ (ih enough (others holds))
    unfold Expr.matcher
    split
    · next charTest single =>
      have none := Expr.groupCount_of_single? single
      rw [Expr.groupCount_sequence, List.map_append, List.sum_append] at none
      simp [Expr.groupCount] at none
    · exact carries_optional (carries_led flags plain free more own .undecided)
        (fun _ passed => passed.skip more) _

end Row

end Rows

/-! ## Matches -/

/-- The state where the match from a place ends. -/
def Regex.Program.ended? (program : Program) (before after : Text) : Option State :=
  ((program.expr.matcher program.flags .undecided).first (program.stateAt before after)).ended?

/-- In no match has a group been closed before it was opened. -/
def Regex.Program.IsForward (program : Program) : Prop :=
  ∀ before after ended, program.ended? before after = some ended →
    Forward (ended.slots.filterMap Slot.places?)

/-- In every match the spans of the groups that took part stand in the order of the groups. -/
def Regex.Program.IsOrdered (program : Program) : Prop :=
  ∀ before after found, program.matchFrom before after = some found →
    found.groups.length = program.groups ∧ InOrder (found.groups.filterMap id)

section Matches

variable {program : Program} {parts : List Expr}

/-- A match of a row has passed all groups. -/
theorem passed_of_row (steady : Bool) (whole : program.expr = .sequence parts)
    (row : Row 0 parts program.groups)
    (holds : steady = true → program.expr.isSteady false = true) {before after : Text}
    {ended : State} (matched : program.ended? before after = some ended) :
    Passed steady program.groups program.groups ended := by
  have outset : Passed steady program.groups 0 (program.stateAt before after) :=
    ⟨[], rfl, rfl, fun _ _ => by simp, fun _ => ⟨⟨fun _ => by simp, by simp⟩, by simp⟩⟩
  rw [whole] at holds
  have meets := row.carries program.flags (Nat.le_refl _) holds .undecided
    (Passed steady program.groups program.groups) (fun ended => .matched ended.note)
    (fun _ passed => passed.note) (program.stateAt before after) outset
  rw [← whole] at meets
  unfold Program.ended? Matcher.first at matched
  cases attempt : program.expr.matcher program.flags .undecided
      (fun ended => .matched ended.note) (program.stateAt before after) with
  | failed place =>
    rw [attempt] at matched
    exact absurd matched (by simp [Attempt.ended?])
  | matched state =>
    rw [attempt] at matched meets
    obtain rfl := Option.some.inj matched
    exact meets

/-- A match of a row has filled all slots. -/
theorem filled_of_row (steady : Bool) (whole : program.expr = .sequence parts)
    (row : Row 0 parts program.groups)
    (holds : steady = true → program.expr.isSteady false = true) {before after : Text}
    {ended : State} (matched : program.ended? before after = some ended) :
    ended.slots.length = program.groups ∧ Filled steady program.groups ended.slots ended := by
  obtain ⟨done, count, filled⟩ := passed_of_row steady whole row holds matched
  have slots : ended.slots = done := by
    rw [filled.slots, count, Nat.sub_self]
    exact List.append_nil _
  rw [slots]
  exact ⟨count, filled⟩

/-- In the matches of a steady row no group is closed before it has been opened. -/
theorem isForward_of_row (whole : program.expr = .sequence parts) (row : Row 0 parts program.groups)
    (steady : program.expr.isSteady false = true) : program.IsForward :=
  fun _ _ _ matched =>
    (filled_of_row true whole row (fun _ => steady) matched).2.forward rfl

/-- In the matches of a row the spans of the groups stand in the order of the groups, if no group is
closed before it has been opened. -/
theorem isOrdered_of_row (whole : program.expr = .sequence parts) (row : Row 0 parts program.groups)
    (forward : program.IsForward) : program.IsOrdered := by
  intro before after found matching
  obtain ⟨ended, matched, rfl⟩ := Option.map_eq_some_iff.1 matching
  obtain ⟨count, filled⟩ := filled_of_row false whole row
    (fun wrong => absurd wrong Bool.false_ne_true) matched
  have ordered := (filled.ordered (forward before after ended matched)).1
  have spans : (ended.slots.map Slot.span?).filterMap id =
      ended.slots.filterMap Slot.places? := by
    rw [List.filterMap_map, ← filterMap_span? (forward before after ended matched)]
    rfl
  refine ⟨?_, ?_⟩
  · rw [List.length_map]
    exact count
  · rw [spans]
    exact ordered

end Matches

end RoutePattern
