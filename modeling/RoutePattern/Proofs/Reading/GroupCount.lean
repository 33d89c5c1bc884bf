import Mathlib.Algebra.GroupWithZero.Nat
import RoutePattern.Regex.Program

/-!
# Counting groups

The groups of an alternation are those of all its branches, because nothing that its branches begin
with together, and no single character, remembers what it matches (`groupCount_alternation`).
-/
namespace RoutePattern.Regex.Expr

/-- An expression that asks for one thing remembers nothing. -/
theorem groupCount_of_isPlain {expr : Expr} (plain : expr.isPlain = true) : expr.groupCount = 0 := by
  cases expr <;> first | rfl | exact absurd plain Bool.false_ne_true

/-- The groups of expressions one after the other. -/
theorem groupCount_sequence (exprs : List Expr) :
    (sequence exprs).groupCount = (exprs.map groupCount).sum := by
  induction exprs with
  | nil => rfl
  | cons expr exprs ih =>
    rw [List.map_cons, List.sum_cons, ← ih]
    rfl

/-- The groups of two rows one after the other. -/
theorem groupCount_sequence_append (one two : List Expr) :
    (sequence (one ++ two)).groupCount = (sequence one).groupCount + (sequence two).groupCount := by
  simp only [groupCount_sequence, List.map_append, List.sum_append]

/-- The groups of expressions to be tried in order. -/
theorem groupCount_choice (first : Expr) (others : List Expr) :
    (choice first others).groupCount = ((first :: others).map groupCount).sum := by
  induction others generalizing first with
  | nil => simp [choice]
  | cons second others ih =>
    show first.groupCount + (choice second others).groupCount = _
    rw [ih]
    rfl

/-- What all branches begin with remembers nothing. -/
theorem groupCount_common (first : List Expr) (others : List (List Expr)) :
    (sequence (factor first others).1).groupCount = 0 := by
  induction first generalizing others with
  | nil => rfl
  | cons part first ih =>
    unfold factor
    split
    · next shared =>
      have plain := groupCount_of_isPlain (Bool.and_eq_true_iff.1 shared).1
      show part.groupCount + (sequence (factor first (others.map List.tail)).1).groupCount = 0
      rw [plain, ih]
    · rfl

/-- What remains of the branches has the groups of the branches. -/
theorem groupCount_factor (first : List Expr) (others : List (List Expr)) :
    ((factor first others).2.map fun branch => (sequence branch).groupCount).sum =
      ((first :: others).map fun branch => (sequence branch).groupCount).sum := by
  rw [← @factor_append first others, List.map_map]
  congr 1
  refine List.map_congr_left fun branch _ => ?_
  rw [Function.comp, groupCount_sequence_append, groupCount_common, Nat.zero_add]

/-- Branches of one character or one set each remember nothing. -/
theorem groupCount_of_branchItems? {branches : List (List Expr)} {items : List (List SetItem)}
    (single : branches.mapM branchItems? = some items) :
    (branches.map fun branch => (sequence branch).groupCount).sum = 0 := by
  have one {branch : List Expr} {item : List SetItem} (single : branchItems? branch = some item) :
      (sequence branch).groupCount = 0 := by
    unfold branchItems? at single
    split at single
    · rfl
    · rfl
    · exact absurd single (by simp)
  induction branches generalizing items with
  | nil => rfl
  | cons branch branches ih =>
    rw [List.mapM_cons] at single
    obtain ⟨item, here, later⟩ := Option.bind_eq_some_iff.1 single
    obtain ⟨others, there, -⟩ := Option.bind_eq_some_iff.1 later
    rw [List.map_cons, List.sum_cons, one here, ih there]

/-- An alternation has the groups of all its branches. -/
theorem groupCount_alternation (branches : List (List Expr)) :
    (sequence (alternation branches)).groupCount =
      (branches.map fun branch => (sequence branch).groupCount).sum := by
  fun_cases alternation branches with
  | case1 => rfl
  | case2 branch => simp
  | case3 first others _ common rest factored items single =>
    have shared := groupCount_common first others
    have none := groupCount_of_branchItems? single
    rw [factored] at shared
    rw [← groupCount_factor, factored, none, groupCount_sequence_append, shared]
    rfl
  | case4 first others _ common rest factored one more mapped _ =>
    have shared := groupCount_common first others
    have choices := groupCount_sequence [Expr.choice one more]
    rw [List.map_singleton, List.sum_singleton, groupCount_choice, ← mapped, List.map_map] at choices
    rw [factored] at shared
    rw [← groupCount_factor, factored, groupCount_sequence_append, shared, Nat.zero_add]
    exact choices
  | case5 first others _ common rest factored mapped _ =>
    have shared := groupCount_common first others
    rw [← groupCount_factor, factored, List.map_eq_nil_iff.1 mapped]
    rw [factored] at shared
    exact shared

end RoutePattern.Regex.Expr
