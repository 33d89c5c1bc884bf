import RoutePattern.Pattern.Token
import RoutePattern.Proofs.Language.Scanned

/-!
# Groups that delimit themselves

The scanner for the groups of a pattern reads a text up to the parenthesis that closes a group. What
it may read is said by a grammar that knows nothing of the rest of the pattern (`IsGroupBody`), and
the scanner finds such a body exactly where one stands in front of a closing parenthesis
(`closeGroup_eq_some_iff`). So a group is found again in front of every other rest, and as there is
only one answer, no shorter text closes it (`groupAt_delimitsItself`).
-/
namespace RoutePattern

open Regex (Token)

/-- A text as the rest of a group in front of its closing parenthesis, in which `depth` other groups
are open and perhaps a set. All of them are closed in it. -/
inductive IsGroupBody : (depth : Nat) → (inSet : Bool) → Text → Prop
  | nil : IsGroupBody 0 false []
  | escape {depth : Nat} {inSet : Bool} {body : Text} (c : Char) :
    IsGroupBody depth inSet body → IsGroupBody depth inSet ('\\' :: c :: body)
  /-- A character in a set, which a bracket closes. -/
  | inside {depth : Nat} {c : Char} {body : Text} (bare : c ≠ '\\') :
    IsGroupBody depth (c != ']') body → IsGroupBody depth true (c :: body)
  | set {depth : Nat} {body : Text} :
    IsGroupBody depth true body → IsGroupBody depth false ('[' :: body)
  | opening {depth : Nat} {body : Text} :
    IsGroupBody (depth + 1) false body → IsGroupBody depth false ('(' :: body)
  | closing {depth : Nat} {body : Text} :
    IsGroupBody depth false body → IsGroupBody (depth + 1) false (')' :: body)
  | other {depth : Nat} {c : Char} {body : Text} (plain : c ∉ ['\\', '[', '(', ')']) :
    IsGroupBody depth false body → IsGroupBody depth false (c :: body)

/-- What the scanner has found is the body of a group. -/
theorem isGroupBody_of_closeGroup {depth : Nat} {inSet : Bool} {text body after : Text}
    (found : closeGroup depth inSet text = some (body, after)) : IsGroupBody depth inSet body := by
  -- The cases are those of the scanner: the two ends of a text that is not closed, an escape, a
  -- character in a set, a bracket, an opening and a closing parenthesis, and any other character.
  fun_induction closeGroup depth inSet text generalizing body after with
  | case1 => exact absurd found (by simp)
  | case2 => exact absurd found (by simp)
  | case3 depth inSet c rest ih =>
    obtain ⟨inner, later, rfl⟩ := exists_of_map_grow ('\\' :: c :: ·) found
    exact .escape c (ih later)
  | case4 depth c rest alone bare ih =>
    obtain ⟨inner, later, rfl⟩ := exists_of_map_grow (c :: ·) found
    exact .inside (Token.ne_backslash alone bare) (ih later)
  | case5 depth inSet c rest alone bare out set ih =>
    obtain ⟨inner, later, rfl⟩ := exists_of_map_grow (c :: ·) found
    obtain rfl := eq_false_of_ne_true out
    obtain rfl := eq_of_beq set
    exact .set (ih later)
  | case6 depth inSet c rest alone bare out set opening ih =>
    obtain ⟨inner, later, rfl⟩ := exists_of_map_grow (c :: ·) found
    obtain rfl := eq_false_of_ne_true out
    obtain rfl := eq_of_beq opening
    exact .opening (ih later)
  | case7 inSet c rest alone bare out set opening closing =>
    obtain rfl := eq_false_of_ne_true out
    obtain rfl := (Prod.mk.inj (Option.some.inj found)).1
    exact .nil
  | case8 inSet c rest alone bare out set opening closing depth ih =>
    obtain ⟨inner, later, rfl⟩ := exists_of_map_grow (c :: ·) found
    obtain rfl := eq_false_of_ne_true out
    obtain rfl := eq_of_beq closing
    exact .closing (ih later)
  | case9 depth inSet c rest alone bare out set opening closing ih =>
    obtain ⟨inner, later, rfl⟩ := exists_of_map_grow (c :: ·) found
    obtain rfl := eq_false_of_ne_true out
    have whole := Token.ne_backslash alone bare
    exact .other (by simp_all) (ih later)

/-- The scanner finds the body of a group in front of a closing parenthesis, whatever follows. -/
theorem IsGroupBody.closeGroup {depth : Nat} {inSet : Bool} {body : Text}
    (scanned : IsGroupBody depth inSet body) (after : Text) :
    closeGroup depth inSet (body ++ ')' :: after) = some (body, after) := by
  induction scanned with
  | nil => rfl
  | escape c _ ih => simp [RoutePattern.closeGroup, ih]
  | inside bare _ ih =>
    rw [List.cons_append, closeGroup_cons bare]
    simp [ih]
  | set _ ih =>
    rw [List.cons_append, closeGroup_cons (by decide)]
    simp [ih]
  | opening _ ih =>
    rw [List.cons_append, closeGroup_cons (by decide)]
    simp [ih]
  | closing _ ih =>
    rw [List.cons_append, closeGroup_cons (by decide)]
    simp [ih]
  | other plain _ ih =>
    simp only [List.mem_cons, List.not_mem_nil, or_false, not_or] at plain
    obtain ⟨bare, set, opening, closing⟩ := plain
    rw [List.cons_append, closeGroup_cons bare]
    simp [ih, opening, closing, beq_eq_false_iff_ne.2 set]

/-- The scanner finds exactly the bodies of groups, each in front of the first parenthesis that closes
it. -/
theorem closeGroup_eq_some_iff {depth : Nat} {inSet : Bool} {text body after : Text} :
    closeGroup depth inSet text = some (body, after) ↔
      text = body ++ ')' :: after ∧ IsGroupBody depth inSet body := by
  constructor
  · exact fun found => ⟨eq_of_closeGroup found, isGroupBody_of_closeGroup found⟩
  · rintro ⟨rfl, scanned⟩
    exact scanned.closeGroup after

/-- No beginning of the body of a group closes it. -/
theorem IsGroupBody.closeGroup_prefix {depth : Nat} {inSet : Bool} {body short : Text}
    (scanned : IsGroupBody depth inSet body) (front : short <+: body) :
    RoutePattern.closeGroup depth inSet short = none := by
  obtain ⟨left, rfl⟩ := front
  by_contra some
  obtain ⟨⟨inner, after⟩, found⟩ := Option.ne_none_iff_exists'.1 some
  obtain ⟨rfl, earlier⟩ := closeGroup_eq_some_iff.1 found
  -- The whole body and the shorter one would both be found at the beginning of the same text.
  have same : inner ++ ')' :: after ++ left ++ [')'] = inner ++ ')' :: (after ++ left ++ [')']) := by
    simp
  have whole := scanned.closeGroup []
  have less := earlier.closeGroup (after ++ left ++ [')'])
  rw [same, less] at whole
  have equal : inner = inner ++ ')' :: after ++ left := (Prod.mk.inj (Option.some.inj whole)).1
  have length := congrArg List.length equal
  simp only [List.length_append, List.length_cons] at length
  omega

/-! ## Groups in patterns -/

/-- The body of the group that opens at a place of a pattern, and the place behind the group. -/
def groupAt (pattern : Text) (start : Nat) : Except PatternError (Text × Nat) :=
  (readGroup pattern start (pattern.drop start)).map fun found =>
    (found.1, pattern.length - found.2.length)

variable {pattern body : Text} {start stop : Nat}

/-- A group opens behind the beginning of its pattern. -/
theorem exists_append_of_opens (opens : pattern[start]? = some '(') :
    ∃ front text, pattern = front ++ '(' :: text ∧ start = front.length := by
  obtain ⟨bound, same⟩ := List.getElem?_eq_some_iff.1 opens
  refine ⟨pattern.take start, pattern.drop (start + 1), ?_, ?_⟩
  · rw [← same, ← List.drop_eq_getElem_cons bound, List.take_append_drop]
  · rw [List.length_take, Nat.min_eq_left (Nat.le_of_lt bound)]

/-- A body that is not empty is found between its parentheses. -/
theorem groupAt_of_isGroupBody (scanned : IsGroupBody 0 false body) (given : body ≠ [])
    (front rest : Text) : groupAt (front ++ '(' :: (body ++ ')' :: rest)) front.length =
      .ok (body, front.length + body.length + 2) := by
  obtain ⟨c, body, rfl⟩ := List.exists_cons_of_ne_nil given
  have behind : (front ++ '(' :: (c :: body ++ ')' :: rest)).length - rest.length =
      front.length + (c :: body).length + 2 := by
    simp only [List.length_append, List.length_cons]
    omega
  rw [groupAt, List.drop_left, readGroup, List.drop_one, List.tail_cons, scanned.closeGroup rest,
    ← behind]
  rfl

/-- A group that is not closed is refused with its place. -/
theorem groupAt_of_closeGroup {text : Text} (unclosed : closeGroup 0 false text = none)
    (front : Text) : groupAt (front ++ '(' :: text) front.length =
      .error (.unbalancedGroup front.length (front ++ '(' :: text)) := by
  rw [groupAt, List.drop_left, readGroup, List.drop_one, List.tail_cons, unclosed]
  rfl

/-- The scanner finds exactly the bodies that are not empty, each between its parentheses. -/
theorem groupAt_eq_ok_iff (opens : pattern[start]? = some '(') :
    groupAt pattern start = .ok (body, stop) ↔
      ∃ front rest, pattern = front ++ '(' :: (body ++ ')' :: rest) ∧ start = front.length ∧
        stop = front.length + body.length + 2 ∧ body ≠ [] ∧ IsGroupBody 0 false body := by
  constructor
  · intro found
    obtain ⟨front, text, rfl, rfl⟩ := exists_append_of_opens opens
    cases closed : closeGroup 0 false text with
    | none => exact absurd ((groupAt_of_closeGroup closed front).symm.trans found) (by simp)
    | some parts =>
      obtain ⟨inner, rest⟩ := parts
      obtain ⟨rfl, scanned⟩ := closeGroup_eq_some_iff.1 closed
      by_cases empty : inner = []
      · rw [groupAt, List.drop_left, readGroup, List.drop_one, List.tail_cons, closed, empty] at found
        exact absurd found (by simp [Except.map])
      · have whole := (groupAt_of_isGroupBody scanned empty front rest).symm.trans found
        obtain ⟨rfl, rfl⟩ := Prod.mk.inj (Except.ok.inj whole)
        exact ⟨front, rest, rfl, rfl, rfl, empty, scanned⟩
  · rintro ⟨front, rest, rfl, rfl, rfl, given, scanned⟩
    exact groupAt_of_isGroupBody scanned given front rest

/-- A group of a pattern reaches from its opening parenthesis to the place behind its closing one,
and its body is not empty. It is found again whatever stands behind it, and a pattern that breaks off
in front of its end is refused, with the place of the group. -/
theorem groupAt_delimitsItself (opens : pattern[start]? = some '(')
    (found : groupAt pattern start = .ok (body, stop)) :
    (pattern.take stop).drop start = '(' :: body ++ [')'] ∧ body ≠ [] ∧
      (∀ rest, groupAt (pattern.take stop ++ rest) start = .ok (body, stop)) ∧
      ∀ cut, start < cut → cut < stop →
        groupAt (pattern.take cut) start = .error (.unbalancedGroup start (pattern.take cut)) := by
  obtain ⟨front, rest, rfl, rfl, rfl, given, scanned⟩ := (groupAt_eq_ok_iff opens).1 found
  have taken : (front ++ '(' :: (body ++ ')' :: rest)).take (front.length + body.length + 2) =
      front ++ '(' :: (body ++ [')']) := by
    rw [Nat.add_assoc, List.take_length_add_append, List.take_succ_cons,
      List.take_length_add_append, List.take_succ_cons, List.take_zero]
  refine ⟨?_, given, fun other => ?_, fun cut early inside => ?_⟩
  · rw [taken, List.drop_left]
    rfl
  · rw [taken, List.append_assoc, List.cons_append, List.append_assoc]
    exact groupAt_of_isGroupBody scanned given front other
  · obtain ⟨count, rfl⟩ : ∃ count, cut = front.length + (count + 1) :=
      ⟨cut - front.length - 1, by omega⟩
    have short : (front ++ '(' :: (body ++ ')' :: rest)).take (front.length + (count + 1)) =
        front ++ '(' :: body.take count := by
      rw [List.take_length_add_append, List.take_succ_cons,
        List.take_append_of_le_length (by omega)]
    rw [short]
    exact groupAt_of_closeGroup (scanned.closeGroup_prefix (List.take_prefix count body)) front

/-- A pattern whose group holds another group, an escape and a set with parentheses. -/
def groupedPattern : Text := "/:x((a|\\))[()]+)?/(b".toList

/-- Neither an escaped parenthesis nor one in a set closes a group, and the group is found although
another one is left open behind it. -/
theorem groupAt_delimitsItself_nested :
    groupedPattern[3]? = some '(' ∧
      groupAt groupedPattern 3 = .ok ("(a|\\))[()]+".toList, 16) ∧
      (∀ rest, groupAt (groupedPattern.take 16 ++ rest) 3 = .ok ("(a|\\))[()]+".toList, 16)) ∧
      groupAt (groupedPattern.take 14) 3 =
        .error (.unbalancedGroup 3 (groupedPattern.take 14)) := by
  have opens : groupedPattern[3]? = some '(' := rfl
  have found : groupAt groupedPattern 3 = .ok ("(a|\\))[()]+".toList, 16) := rfl
  obtain ⟨-, -, again, early⟩ := groupAt_delimitsItself opens found
  exact ⟨opens, found, again, early 14 (by decide) (by decide)⟩

end RoutePattern
