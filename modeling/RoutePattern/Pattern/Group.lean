import RoutePattern.Text.Basic

/-!
# Groups in patterns

A parameter may carry a regular expression between parentheses. The scanner finds the parenthesis
that closes it: it counts parentheses and passes over escapes and sets. Bare parentheses inside
are then made non-capturing, so that a parameter owns exactly one group.
-/
namespace RoutePattern

/-- The text up to the parenthesis that closes a group, and the text after it. `depth` groups are
open inside the group, and `inSet` tells whether a set is open. None stands for a group that is
not closed. -/
def closeGroup (depth : Nat) (inSet : Bool) : Text → Option (Text × Text)
  | [] => none
  | ['\\'] => none
  | '\\' :: c :: rest => (closeGroup depth inSet rest).map fun (body, after) =>
      ('\\' :: c :: body, after)
  | c :: rest =>
    if inSet then (closeGroup depth (c != ']') rest).map fun (body, after) => (c :: body, after)
    else if c == '[' then (closeGroup depth true rest).map fun (body, after) => (c :: body, after)
    else if c == '(' then
      (closeGroup (depth + 1) false rest).map fun (body, after) => (c :: body, after)
    else if c == ')' then
      match depth with
      | 0 => some ([], rest)
      | depth + 1 => (closeGroup depth false rest).map fun (body, after) => (c :: body, after)
    else (closeGroup depth false rest).map fun (body, after) => (c :: body, after)

/-- A regular expression with every bare parenthesis made non-capturing; `inSet` tells whether a
set is open. -/
def nonCapturingFrom (inSet : Bool) : Text → Text
  | [] => []
  | ['\\'] => ['\\']
  | '\\' :: c :: rest => '\\' :: c :: nonCapturingFrom inSet rest
  | c :: rest =>
    if inSet then c :: nonCapturingFrom (c != ']') rest
    else if c == '[' then c :: nonCapturingFrom true rest
    else if c == '(' && rest.head? != some '?' then '(' :: '?' :: ':' :: nonCapturingFrom false rest
    else c :: nonCapturingFrom false rest

/-- A regular expression with every bare parenthesis made non-capturing. -/
def nonCapturing (source : Text) : Text := nonCapturingFrom false source

/-- What is found with a beginning has been found without it. -/
theorem exists_of_map_grow {found : Option (Text × Text)} (grow : Text → Text) {body after : Text}
    (grown : (found.map fun parts => (grow parts.1, parts.2)) = some (body, after)) :
    ∃ inner, found = some (inner, after) ∧ body = grow inner := by
  obtain ⟨⟨inner, _⟩, found, same⟩ := Option.map_eq_some_iff.1 grown
  obtain ⟨rfl, rfl⟩ := Prod.mk.inj same
  exact ⟨inner, found, rfl⟩

/-- The body of a group is what stands between its parentheses. -/
theorem eq_of_closeGroup {depth : Nat} {inSet : Bool} {text body after : Text}
    (found : closeGroup depth inSet text = some (body, after)) : text = body ++ ')' :: after := by
  fun_induction closeGroup depth inSet text generalizing body after with
  | case1 | case2 => exact absurd found (by simp)
  | case3 depth inSet c rest ih =>
    obtain ⟨inner, later, rfl⟩ := exists_of_map_grow ('\\' :: c :: ·) found
    exact congrArg ('\\' :: c :: ·) (ih later)
  | case4 _ c _ _ _ ih | case5 _ _ c _ _ _ _ _ ih | case6 _ _ c _ _ _ _ _ _ ih
  | case8 _ c _ _ _ _ _ _ _ _ ih | case9 _ _ c _ _ _ _ _ _ _ ih =>
    obtain ⟨inner, later, rfl⟩ := exists_of_map_grow (c :: ·) found
    exact congrArg (c :: ·) (ih later)
  | case7 inSet c rest _ _ _ _ _ closing =>
    obtain ⟨rfl, rfl⟩ := Prod.mk.inj (Option.some.inj found)
    rw [eq_of_beq closing, List.nil_append]

end RoutePattern
