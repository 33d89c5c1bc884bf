import Mathlib.Data.List.Forall2
import RoutePattern.Proofs.Matching.Branches
import RoutePattern.Proofs.Reading.GroupCount

/-!
# Expressions without their groups

An expression may be given another one that does the same and remembers nothing (`Expr.Ungroups`):
the places where it stops lead to the same, it is as wide, and where there is nothing to be
remembered it is the expression itself. All ways of building expressions keep to this. In particular
a group may be left out, and an alternation of branches without their groups does what the
alternation does, although it may begin with more in common.
-/
namespace RoutePattern.Regex.Expr

/-- The second expression does what the first one does, and remembers nothing. -/
structure Ungroups (expr other : Expr) : Prop where
  agree : Agree (expr.stops .none) (other.stops .none)
  width (groups groups' : List Width) : other.rawWidth groups' = expr.rawWidth groups
  fixed : expr.behindFixed = true → other.behindFixed = true
  tame : other.isTame = true
  free : other.groupCount = 0
  same : expr.groupCount = 0 → other = expr

/-- A row shows all its parts. -/
theorem sequence_injective : Function.Injective sequence := by
  intro one two same
  induction one generalizing two with
  | nil =>
    cases two with
    | nil => rfl
    | cons part two => exact absurd same (by simp [sequence])
  | cons part one ih =>
    cases two with
    | nil => exact absurd same (by simp [sequence])
    | cons other two =>
      obtain ⟨rfl, rest⟩ := Expr.seq.inj same
      rw [ih rest]

namespace Ungroups

variable {expr other body bare : Expr}

/-- An expression of one character or place remembers nothing. -/
theorem plain (plain : expr.isPlain = true) (tame : expr.isTame = true) : expr.Ungroups expr where
  agree := .refl _
  width groups groups' := by
    cases expr with
    | again index => exact absurd tame (by simp [isTame, refersBack])
    | char _ | notChar _ | any | set _ _ | anchor _ => rfl
    | _ => exact absurd plain Bool.false_ne_true
  fixed := id
  tame := tame
  free := groupCount_of_isPlain plain
  same _ := rfl

/-- The empty row. -/
theorem empty : Expr.empty.Ungroups .empty where
  agree := .refl _
  width _ _ := rfl
  fixed := id
  tame := rfl
  free := rfl
  same _ := rfl

/-- One row after the other. -/
theorem append {one two three others : List Expr}
    (first : (sequence one).Ungroups (sequence two))
    (second : (sequence three).Ungroups (sequence others)) :
    (sequence (one ++ three)).Ungroups (sequence (two ++ others)) where
  agree place goal := by
    rw [stops_sequence_append, stops_sequence_append]
    exact first.agree.flatMap second.agree place goal
  width groups groups' := by
    rw [rawWidth_sequence_append, rawWidth_sequence_append, first.width groups groups',
      second.width groups groups']
  fixed := by
    have one := first.fixed
    have two := second.fixed
    simp only [spreads_behindFixed.sequence, List.all_append, Bool.and_eq_true] at one two ⊢
    exact And.imp one two
  tame := by
    have one := first.tame
    have two := second.tame
    simp only [spreads_isTame.sequence, List.all_append, Bool.and_eq_true] at one two ⊢
    exact ⟨one, two⟩
  free := by rw [groupCount_sequence_append, first.free, second.free]
  same none := by
    rw [groupCount_sequence_append, Nat.add_eq_zero_iff] at none
    rw [sequence_injective (first.same none.1), sequence_injective (second.same none.2)]

/-- A row of one part. -/
theorem single (ungroups : expr.Ungroups other) :
    (sequence [expr]).Ungroups (sequence [other]) where
  agree := by simpa using ungroups.agree
  width groups groups' := by
    simp [sequence, rawWidth, ungroups.width groups groups']
  fixed := by simpa [sequence, behindFixed] using ungroups.fixed
  tame := by simp [spreads_isTame.sequence, ungroups.tame]
  free := by simp [groupCount_sequence, ungroups.free]
  same none := by
    rw [groupCount_sequence] at none
    rw [ungroups.same (by simpa using none)]

/-- A group is left out. -/
theorem group (ungroups : body.Ungroups bare) (index : Nat) :
    (sequence [Expr.group index body]).Ungroups bare where
  agree := by
    rw [stops_sequence_singleton]
    exact ungroups.agree
  width groups groups' := by
    rw [ungroups.width groups groups']
    simp [sequence, rawWidth]
  fixed := by simpa [sequence, behindFixed] using ungroups.fixed
  tame := ungroups.tame
  free := ungroups.free
  same none := absurd none (by simp [groupCount_sequence, groupCount])

/-- A first match that is final. -/
theorem atomic (ungroups : body.Ungroups bare) : (Expr.atomic body).Ungroups (.atomic bare) where
  agree := ungroups.agree.head?
  width := ungroups.width
  fixed := ungroups.fixed
  tame := ungroups.tame
  free := ungroups.free
  same none := congrArg Expr.atomic (ungroups.same none)

/-- A look ahead. -/
theorem ahead (ungroups : body.Ungroups bare) (negated : Bool) :
    (Expr.ahead negated body).Ungroups (.ahead negated bare) where
  agree := ungroups.agree.look negated some
  width _ _ := rfl
  fixed := ungroups.fixed
  tame := ungroups.tame
  free := ungroups.free
  same none := congrArg (Expr.ahead negated) (ungroups.same none)

/-- A look-behind, as far back as the body is wide. -/
theorem behind (ungroups : body.Ungroups bare) (negated : Bool) (groups groups' : List Width) :
    (Expr.behind negated (body.width groups) body).Ungroups
      (.behind negated (bare.width groups') bare) := by
  have wide : bare.width groups' = body.width groups :=
    congrArg Width.cut (ungroups.width groups groups')
  rw [wide]
  exact {
    agree := ungroups.agree.look negated (·.back? (body.width groups).least)
    width := fun _ _ => rfl
    fixed := by
      simp only [behindFixed, Bool.and_eq_true]
      exact And.imp_right ungroups.fixed
    tame := ungroups.tame
    free := ungroups.free
    same := fun none => congrArg (Expr.behind negated _) (ungroups.same none) }

/-- A repetition that holds no group, unless it can be given up again. -/
theorem loop (ungroups : body.Ungroups bare) {least : Nat} {most : Option Nat}
    {appetite : Appetite} (tame : (Expr.loop least most appetite body).isTame = true) :
    (Expr.loop least most appetite body).Ungroups (.loop least most appetite bare) := by
  obtain ⟨-, ordered, final⟩ := isTame_loop.1 tame
  exact {
    agree := by
      by_cases possessive : appetite = .possessive
      · rw [ungroups.same (final possessive)]
        exact .refl _
      · rw [stops_loop possessive, stops_loop possessive]
        exact ungroups.agree.loopStops _ least most
    width := fun groups groups' => by simp only [rawWidth, ungroups.width groups groups']
    fixed := ungroups.fixed
    tame := isTame_loop.2 ⟨ungroups.tame, ordered, fun _ => ungroups.free⟩
    free := ungroups.free
    same := fun none => congrArg (Expr.loop least most appetite) (ungroups.same none) }

/-! ## Alternations -/

/-- The branches of an alternation, each with its own one without groups. -/
abbrev Branches (branches others : List (List Expr)) : Prop :=
  List.Forall₂ (fun branch other => (sequence branch).Ungroups (sequence other)) branches others

namespace Branches

variable {branches others : List (List Expr)}

/-- The stops of the branches agree. -/
theorem agree (each : Branches branches others) :
    Agree (branchStops .none branches) (branchStops .none others) := by
  induction each with
  | nil => exact .refl _
  | cons first _ ih => exact first.agree.append ih

/-- The branches are as wide. -/
theorem branchWidth_eq (each : Branches branches others) (groups groups' : List Width) :
    branchWidth groups' others = branchWidth groups branches := by
  induction each with
  | nil => rfl
  | cons first rest ih =>
    cases rest with
    | nil => exact first.width groups groups'
    | cons second rest =>
      simp only [branchWidth] at ih ⊢
      rw [first.width groups groups', ih]

/-- Where the look-behinds of all branches have fixed widths, those without groups have. -/
theorem fixed (each : Branches branches others)
    (fixed : branches.all (·.all behindFixed) = true) :
    others.all (·.all behindFixed) = true := by
  induction each with
  | nil => rfl
  | cons first _ ih =>
    rw [List.all_cons, Bool.and_eq_true, ← spreads_behindFixed.sequence] at fixed ⊢
    exact ⟨first.fixed fixed.1, ih fixed.2⟩

/-- The branches without groups are tame. -/
theorem tame (each : Branches branches others) : others.all (·.all isTame) = true := by
  induction each with
  | nil => rfl
  | cons first _ ih =>
    rw [List.all_cons, Bool.and_eq_true, ← spreads_isTame.sequence]
    exact ⟨first.tame, ih⟩

/-- The branches without groups remember nothing. -/
theorem free (each : Branches branches others) :
    (others.map fun branch => (sequence branch).groupCount).sum = 0 := by
  induction each with
  | nil => rfl
  | cons first _ ih => rw [List.map_cons, List.sum_cons, first.free, ih]

/-- Branches that remember nothing are kept as they are. -/
theorem same (each : Branches branches others)
    (none : (branches.map fun branch => (sequence branch).groupCount).sum = 0) :
    others = branches := by
  induction each with
  | nil => rfl
  | cons first _ ih =>
    rw [List.map_cons, List.sum_cons, Nat.add_eq_zero_iff] at none
    rw [sequence_injective (first.same none.1), ih none.2]

end Branches

/-- An alternation of branches without their groups does what the alternation does. -/
theorem alternation {branches others : List (List Expr)} (each : Branches branches others)
    (some : branches ≠ []) :
    (sequence (Expr.alternation branches)).Ungroups (sequence (Expr.alternation others)) where
  agree := by
    have some' : others ≠ [] := fun none => some (List.forall₂_nil_right_iff.1 (none ▸ each))
    exact (agree_alternation rfl some).trans (each.agree.trans (agree_alternation rfl some').symm)
  width groups groups' := by
    have some' : others ≠ [] := fun none => some (List.forall₂_nil_right_iff.1 (none ▸ each))
    rw [rawWidth_alternation some, rawWidth_alternation some', each.branchWidth_eq groups groups']
  fixed := by
    rw [spreads_behindFixed.sequence, spreads_behindFixed.sequence,
      spreads_behindFixed.alternation, spreads_behindFixed.alternation]
    exact each.fixed
  tame := by
    rw [spreads_isTame.sequence, spreads_isTame.alternation]
    exact each.tame
  free := by
    rw [groupCount_alternation]
    exact each.free
  same none := by
    rw [groupCount_alternation] at none
    rw [each.same none]

end Ungroups

end RoutePattern.Regex.Expr
