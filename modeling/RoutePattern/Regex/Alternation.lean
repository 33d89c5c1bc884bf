import RoutePattern.Regex.Expr

/-!
# Alternations

A branch is a row of parts. What all branches of an alternation begin with is asked for once, in
front of it, and an alternation of single characters is a set. So an expression has fewer places
where it has to try again. Only parts that ask for one thing each are compared: `Expr.isPlain`.
-/
namespace RoutePattern.Regex

namespace Expr

/-- The expression asks for one character, one place or one earlier text. -/
def isPlain : Expr → Bool
  | char _ | notChar _ | any | set .. | anchor _ | again _ => true
  | _ => false

/-- The parts that a first branch and all others begin with, and what remains of the branches. -/
def factor : (first : List Expr) → (others : List (List Expr)) → List Expr × List (List Expr)
  | [], others => ([], [] :: others)
  | part :: first, others =>
    if part.isPlain && others.all (·.head? == some part) then
      let (common, branches) := factor first (others.map List.tail)
      (part :: common, branches)
    else ([], (part :: first) :: others)

/-- The items of a branch that is one character or one set of listed characters. -/
def branchItems? : List Expr → Option (List SetItem)
  | [char code] => some [.char code]
  | [set false items] => some items
  | _ => none

/-- The parts of an alternation. One branch alone is no alternation. -/
def alternation : List (List Expr) → List Expr
  | [] => []
  | [branch] => branch
  | first :: others =>
    let (common, branches) := factor first others
    match branches.mapM branchItems?, branches.map sequence with
    | some items, _ => common ++ [set false items.flatten.eraseDups]
    | none, first :: others => common ++ [choice first others]
    | none, [] => common

/-- The common parts in front of what remains of a branch are the branch. -/
theorem factor_append {first : List Expr} {others : List (List Expr)} :
    (factor first others).2.map ((factor first others).1 ++ ·) = first :: others := by
  induction first generalizing others with
  | nil => simp [factor]
  | cons part first ih =>
    unfold factor
    split
    · rename_i h
      simp only [Bool.and_eq_true, List.all_eq_true, beq_iff_eq] at h
      have tails : others.map (part :: ·.tail) = others := by
        refine (List.map_congr_left fun branch mem => ?_).trans (List.map_id _)
        cases branch with
        | nil => simpa using h.2 _ mem
        | cons head tail => simpa using (h.2 _ mem).symm
      have := congrArg (List.map (part :: ·)) (@ih (others.map List.tail))
      simpa [List.map_map, Function.comp_def, tails] using this
    · simp

end Expr

end RoutePattern.Regex
