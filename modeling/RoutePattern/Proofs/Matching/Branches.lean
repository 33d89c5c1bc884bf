import RoutePattern.Proofs.Matching.Agreement
import RoutePattern.Regex.Program

/-!
# Alternations and their branches

What spreads from all parts to rows and choices is true of an alternation where it is true of all
parts of its branches (`Expr.Spreads.alternation`), and an alternation is as wide as its branches
are (`Expr.rawWidth_alternation`).
-/
namespace RoutePattern.Regex.Expr

/-- Each of the branches that are made a set is one character, or one set. -/
theorem exists_branchItems? {branches : List (List Expr)} {items : List (List SetItem)}
    (found : branches.mapM branchItems? = some items) :
    ∀ branch ∈ branches, ∃ own, branchItems? branch = some own := by
  induction branches generalizing items with
  | nil => exact fun branch none => absurd none List.not_mem_nil
  | cons branch branches ih =>
    rw [List.mapM_cons] at found
    obtain ⟨first, here, later⟩ := Option.bind_eq_some_iff.1 found
    obtain ⟨others, there, -⟩ := Option.bind_eq_some_iff.1 later
    exact List.forall_mem_cons.2 ⟨⟨first, here⟩, ih there⟩

/-! ## Properties of all parts -/

/-- A property of rows and choices that is that of all their parts, and that characters have. -/
structure Spreads (holds : Expr → Bool) : Prop where
  empty : holds .empty = true
  char (code : Nat) : holds (.char code) = true
  set (negated : Bool) (items : List SetItem) : holds (.set negated items) = true
  seq (first second : Expr) : holds (.seq first second) = (holds first && holds second)
  alt (first second : Expr) : holds (.alt first second) = (holds first && holds second)

namespace Spreads

variable {holds : Expr → Bool}

/-- A row has the property if all its parts have it. -/
theorem sequence (spreads : Spreads holds) (parts : List Expr) :
    holds (Expr.sequence parts) = parts.all holds := by
  induction parts with
  | nil => exact spreads.empty
  | cons part parts ih => exact (spreads.seq ..).trans (congrArg (holds part && ·) ih)

/-- A choice has the property if all its expressions have it. -/
theorem choice (spreads : Spreads holds) (first : Expr) (others : List Expr) :
    holds (Expr.choice first others) = (first :: others).all holds := by
  induction others generalizing first with
  | nil => simp [Expr.choice]
  | cons second others ih => rw [Expr.choice, spreads.alt, ih, List.all_cons (a := first)]

/-- Branches of one character have the property. -/
theorem branchItems? (spreads : Spreads holds) {branch : List Expr} {items : List SetItem}
    (found : Expr.branchItems? branch = some items) : branch.all holds = true := by
  unfold Expr.branchItems? at found
  split at found
  · simp [spreads.char]
  · simp [spreads.set]
  · exact absurd found (by simp)

/-- What is made of several branches has the property if all their parts have it. -/
theorem merges (spreads : Spreads holds) {branches : List (List Expr)} {last : Expr}
    (merges : Merges branches last) : holds last = branches.all (·.all holds) := by
  cases merges with
  | choice first others =>
    rw [spreads.choice, ← List.map_cons (f := Expr.sequence), List.all_map]
    exact congrArg (List.all _ ·) (funext fun branch => spreads.sequence branch)
  | set single =>
    rw [spreads.set, eq_comm, List.all_eq_true]
    intro branch found
    obtain ⟨items, known⟩ := exists_branchItems? single branch found
    exact spreads.branchItems? known

/-- An alternation has the property if all parts of its branches have it. -/
theorem alternation (spreads : Spreads holds) (branches : List (List Expr)) :
    (Expr.alternation branches).all holds = branches.all (·.all holds) := by
  by_cases some : branches = []
  · subst some
    rfl
  obtain alone | ⟨common, rest, last, more, whole, -, merges, joined⟩ := alternation_cases some
  · conv => rhs; rw [alone]
    simp
  · rw [joined, whole, List.all_append, List.all_map, List.all_cons, List.all_nil, Bool.and_true,
      spreads.merges merges]
    obtain ⟨first, others, rfl⟩ := List.exists_cons_of_ne_nil more
    cases shared : common.all holds <;> simp [Function.comp_def, List.all_append, shared]

end Spreads

/-- Tame expressions. -/
theorem spreads_isTame : Spreads isTame where
  empty := rfl
  char _ := rfl
  set _ _ := rfl
  seq := isTame_seq
  alt := isTame_alt

/-- Expressions whose look-behinds have fixed widths. -/
theorem spreads_behindFixed : Spreads behindFixed where
  empty := rfl
  char _ := rfl
  set _ _ := rfl
  seq _ _ := rfl
  alt _ _ := rfl

/-- Expressions whose bounds are in order. -/
theorem spreads_isOrdered : Spreads isOrdered where
  empty := rfl
  char _ := rfl
  set _ _ := rfl
  seq _ _ := rfl
  alt _ _ := rfl

/-! ## Widths -/

variable {groups : List Width}

/-- The width of one width after another. -/
theorem rawWidth_sequence_append (one two : List Expr) :
    (sequence (one ++ two)).rawWidth groups =
      ⟨((sequence one).rawWidth groups).least + ((sequence two).rawWidth groups).least,
        ((sequence one).rawWidth groups).greatest + ((sequence two).rawWidth groups).greatest⟩ := by
  induction one with
  | nil => simp [sequence, rawWidth]
  | cons part one ih =>
    show Width.mk ((part.rawWidth groups).least + ((sequence (one ++ two)).rawWidth groups).least)
      ((part.rawWidth groups).greatest + ((sequence (one ++ two)).rawWidth groups).greatest) = _
    rw [ih]
    simp [sequence, rawWidth, Nat.add_assoc]

/-- The least and the greatest width of several branches. -/
def branchWidth (groups : List Width) : List (List Expr) → Width
  | [] => ⟨0, 0⟩
  | [branch] => (sequence branch).rawWidth groups
  | branch :: branches =>
    let one := (sequence branch).rawWidth groups
    let two := branchWidth groups branches
    ⟨min one.least two.least, max one.greatest two.greatest⟩

/-- What is made of several branches is as wide as they are. -/
theorem rawWidth_of_merges {branches : List (List Expr)} {last : Expr} (some : branches ≠ [])
    (merges : Merges branches last) : last.rawWidth groups = branchWidth groups branches := by
  cases merges with
  | choice first others =>
    induction others generalizing first with
    | nil => rfl
    | cons second others ih =>
      have later := ih second (List.cons_ne_nil _ _)
      show Width.mk _ _ = Width.mk _ _
      rw [← later]
  -- Branches that are merged into a set take one character each.
  | set single =>
    have one : ∀ branch ∈ branches, (sequence branch).rawWidth groups = ⟨1, 1⟩ := by
      intro branch found
      obtain ⟨own, known⟩ := exists_branchItems? single branch found
      unfold branchItems? at known
      split at known
      · rfl
      · rfl
      · exact absurd known (by simp)
    clear single
    induction branches with
    | nil => exact absurd rfl some
    | cons first others ih =>
      obtain ⟨here, later⟩ := List.forall_mem_cons.1 one
      cases others with
      | nil => exact here.symm
      | cons second others =>
        have rest : ⟨1, 1⟩ = branchWidth groups (second :: others) :=
          ih (List.cons_ne_nil _ _) later
        show Width.mk 1 1 = Width.mk _ _
        rw [here, ← rest]
        rfl

/-- What branches begin with in common widens each of them. -/
theorem branchWidth_map_append (common : List Expr) {branches : List (List Expr)}
    (some : branches ≠ []) :
    branchWidth groups (branches.map (common ++ ·)) =
      ⟨((sequence common).rawWidth groups).least + (branchWidth groups branches).least,
        ((sequence common).rawWidth groups).greatest + (branchWidth groups branches).greatest⟩ := by
  induction branches with
  | nil => exact absurd rfl some
  | cons first others ih =>
    cases others with
    | nil => exact rawWidth_sequence_append common first
    | cons second others =>
      have later := ih (List.cons_ne_nil _ _)
      show Width.mk _ _ = _
      rw [later, rawWidth_sequence_append]
      simp only [branchWidth, Nat.add_min_add_left, Nat.add_max_add_left]

/-- An alternation is as wide as its branches are. -/
theorem rawWidth_alternation {branches : List (List Expr)} (some : branches ≠ []) :
    (sequence (alternation branches)).rawWidth groups = branchWidth groups branches := by
  obtain alone | ⟨common, rest, last, more, whole, -, merges, joined⟩ := alternation_cases some
  · conv => rhs; rw [alone]
    rfl
  · rw [joined, whole, rawWidth_sequence_append, branchWidth_map_append common more,
      ← rawWidth_of_merges more merges]
    simp [sequence, rawWidth]

end RoutePattern.Regex.Expr
