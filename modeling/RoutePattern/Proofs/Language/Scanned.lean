import RoutePattern.Proofs.Reading.Endings.Run
import RoutePattern.Pattern.Group

/-!
# Texts that the scanner passes over

The scanner for the groups of a pattern passes over a text if it opens no group and no set that it
leaves open, and closes none that it has not opened. It then finds the end of the group behind the
text, and makes no group of the text non-capturing (`PassedOver`). Such texts are put together one
after the other, and between the parentheses of a group that does not remember what it matches.
-/
namespace RoutePattern

open Regex (Token)

/-- The scanner passes over a text outside of sets, and leaves it as it is. -/
structure PassedOver (text : Text) : Prop where
  closes : ∀ depth rest, closeGroup depth false (text ++ rest) =
    (closeGroup depth false rest).map fun found => (text ++ found.1, found.2)
  kept : ∀ rest, nonCapturingFrom false (text ++ rest) = text ++ nonCapturingFrom false rest

/-- A character other than the backslash. -/
theorem closeGroup_cons {c : Char} (bare : c ≠ '\\') (depth : Nat) (inSet : Bool) (rest : Text) :
    closeGroup depth inSet (c :: rest) =
      if !inSet && c == ')' && depth == 0 then some ([], rest)
      else (closeGroup (if inSet then depth else if c == '(' then depth + 1
          else if c == ')' then depth - 1 else depth)
        (if inSet then c != ']' else c == '[') rest).map fun found => (c :: found.1, found.2) := by
  cases inSet with
  | true => cases depth <;> rw [closeGroup] <;> simp [bare]
  | false =>
    by_cases set : c = '['
    · subst set
      cases depth <;> rw [closeGroup] <;> simp
    have other : (c == '[') = false := beq_eq_false_iff_ne.2 set
    by_cases opening : c = '('
    · subst opening
      cases depth <;> rw [closeGroup] <;> simp
    by_cases closing : c = ')'
    · subst closing
      cases depth <;> rw [closeGroup] <;> simp
    · cases depth <;> rw [closeGroup] <;> simp [bare, other, opening, closing]

/-- A character other than the backslash. -/
theorem nonCapturingFrom_cons {c : Char} (bare : c ≠ '\\') (inSet : Bool) (rest : Text) :
    nonCapturingFrom inSet (c :: rest) =
      if !inSet && c == '(' && rest.head? != some '?' then
        '(' :: '?' :: ':' :: nonCapturingFrom false rest
      else c :: nonCapturingFrom (if inSet then c != ']' else c == '[') rest := by
  cases inSet with
  | true => rw [nonCapturingFrom] <;> simp [bare]
  | false =>
    by_cases set : c = '['
    · subst set
      rw [nonCapturingFrom] <;> simp
    · have other : (c == '[') = false := beq_eq_false_iff_ne.2 set
      rw [nonCapturingFrom] <;> simp [bare, other]

namespace PassedOver

variable {one two text : Text}

/-- The empty text. -/
theorem nil : PassedOver [] := ⟨fun depth rest => by simp, fun _ => rfl⟩

/-- One text after the other. -/
theorem append (first : PassedOver one) (second : PassedOver two) : PassedOver (one ++ two) where
  closes depth rest := by
    rw [List.append_assoc, first.closes, second.closes, Option.map_map]
    simp [Function.comp_def]
  kept rest := by rw [List.append_assoc, first.kept, second.kept, List.append_assoc]

/-- A character without a meaning to the scanner. -/
theorem char {c : Char} (plain : c ∉ ['\\', '[', '(', ')']) : PassedOver [c] := by
  simp only [List.mem_cons, List.not_mem_nil, or_false, not_or] at plain
  obtain ⟨bare, set, opening, closing⟩ := plain
  have other : (c == '[') = false := beq_eq_false_iff_ne.2 set
  constructor
  · intro depth rest
    rw [List.singleton_append, closeGroup_cons bare]
    simp [other, opening, closing]
  · intro rest
    rw [List.singleton_append, nonCapturingFrom_cons bare]
    simp [other, opening]

/-- Characters without a meaning to the scanner. -/
theorem ofChars (plain : ∀ c ∈ text, c ∉ ['\\', '[', '(', ')']) : PassedOver text := by
  induction text with
  | nil => exact .nil
  | cons c text ih =>
    obtain ⟨first, others⟩ := List.forall_mem_cons.1 plain
    exact (PassedOver.char first).append (ih others)

/-- Characters of a class that leaves out all characters with a meaning to the scanner. -/
theorem ofClass {accepts : Char → Bool}
    (plain : (['\\', '[', '(', ')'].all fun sign => !accepts sign) = true)
    (each : ∀ c ∈ text, accepts c = true) : PassedOver text := by
  refine ofChars fun c found sign => ?_
  have wrong := List.all_eq_true.1 plain c sign
  rw [each c found] at wrong
  exact absurd wrong Bool.false_ne_true

/-- An escape. -/
theorem escape (c : Char) : PassedOver ['\\', c] where
  closes depth rest := by simp [closeGroup]
  kept rest := by simp [nonCapturingFrom]

/-- A text that the scanner passes over is the body of the group that it stands in. -/
theorem body (passed : PassedOver text) (rest : Text) :
    closeGroup 0 false (text ++ ')' :: rest) = some (text, rest) := by
  rw [passed.closes]
  simp [closeGroup]

/-- A text that the scanner passes over is left as it is. -/
theorem nonCapturing (passed : PassedOver text) : nonCapturing text = text := by
  have whole := passed.kept []
  rwa [List.append_nil, nonCapturingFrom, List.append_nil] at whole

/-- A group that does not remember what it matches. -/
theorem group (passed : PassedOver text) : PassedOver ('(' :: '?' :: ':' :: text ++ [')']) := by
  have marks : PassedOver ['?', ':'] := ofChars (by simp)
  have inside := marks.append passed
  constructor
  · intro depth rest
    have whole : '(' :: '?' :: ':' :: text ++ [')'] ++ rest =
        '(' :: (['?', ':'] ++ text ++ ')' :: rest) := by simp
    rw [whole, closeGroup_cons (by decide)]
    simp only [Bool.not_false, Char.reduceBEq, Bool.and_false, Bool.false_and, Bool.false_eq_true,
      if_false, if_true]
    rw [inside.closes, closeGroup_cons (by decide)]
    simp [Function.comp_def]
  · intro rest
    have whole : '(' :: '?' :: ':' :: text ++ [')'] ++ rest =
        '(' :: (['?', ':'] ++ text ++ ')' :: rest) := by simp
    have marked : (['?', ':'] ++ text ++ ')' :: rest).head? = some '?' := rfl
    rw [whole, nonCapturingFrom_cons (by decide), marked]
    simp only [Bool.not_false, Char.reduceBEq, bne_self_eq_false, Bool.and_false,
      Bool.false_eq_true, if_false]
    rw [inside.kept, nonCapturingFrom_cons (by decide)]
    simp

/-! ## Sets -/

/-- A text up to the bracket behind it, where the scanner is inside of a set or not. -/
theorem upToBracket {inSet : Bool} (closed : Token.IsClosed text)
    (paired : (inSet = true ∧ .plain ']' ∉ Token.ofText text) ∨
      ∀ token ∈ Token.ofText text, token ∉ [.plain '(', .plain ')', .plain '[']) :
    (∀ depth rest, closeGroup depth inSet (text ++ ']' :: rest) =
      (closeGroup depth false rest).map fun found => (text ++ ']' :: found.1, found.2)) ∧
    ∀ rest, nonCapturingFrom inSet (text ++ ']' :: rest) =
      text ++ ']' :: nonCapturingFrom false rest := by
  unfold Token.IsClosed at closed
  fun_induction Token.ofText text generalizing inSet with
  | case1 =>
    constructor
    · intro depth rest
      rw [List.nil_append, closeGroup_cons (by decide)]
      simp
    · intro rest
      rw [List.nil_append, nonCapturingFrom_cons (by decide)]
      simp
  | case2 => exact absurd (List.mem_singleton_self _) closed
  | case3 c text ih =>
    obtain ⟨closes, kept⟩ := ih (List.not_mem_of_not_mem_cons closed)
      (paired.imp (fun both => ⟨both.1, List.not_mem_of_not_mem_cons both.2⟩)
        fun each => (List.forall_mem_cons.1 each).2)
    constructor
    · intro depth rest
      simp [closeGroup, closes, Function.comp_def]
    · intro rest
      simp [nonCapturingFrom, kept]
  | case4 c text alone bare ih =>
    have plain : c ≠ '\\' := Token.ne_backslash alone bare
    have later := List.not_mem_of_not_mem_cons closed
    -- Inside of a set only its end means anything, and outside of it nothing does.
    obtain ⟨next, goesOn, further⟩ : ∃ next, ((if inSet then c != ']' else c == '[') = next ∧
        (inSet = false → c ≠ '(' ∧ c ≠ ')')) ∧ ((next = true ∧ .plain ']' ∉ Token.ofText text) ∨
          ∀ token ∈ Token.ofText text, token ∉ [.plain '(', .plain ')', .plain '[']) := by
      rcases paired with ⟨rfl, none⟩ | each
      · have other : c ≠ ']' := fun same => none (same ▸ List.mem_cons_self ..)
        exact ⟨true, by simp [other], .inl ⟨rfl, List.not_mem_of_not_mem_cons none⟩⟩
      · obtain ⟨first, others⟩ := List.forall_mem_cons.1 each
        exact ⟨_, ⟨rfl, by simp_all⟩, .inr others⟩
    obtain ⟨closes, kept⟩ := ih later further
    constructor
    · intro depth rest
      rw [List.cons_append, closeGroup_cons plain, goesOn.1, closes]
      cases inSet <;> simp_all [Function.comp_def]
    · intro rest
      rw [List.cons_append, nonCapturingFrom_cons plain, goesOn.1, kept]
      cases inSet <;> simp_all

/-- A set. The scanner takes the first bracket for the end of a set, so there is none inside, or the
set holds nothing else that has a meaning to the scanner. -/
theorem set (closed : Token.IsClosed text)
    (paired : .plain ']' ∉ Token.ofText text ∨
      ∀ token ∈ Token.ofText text, token ∉ [.plain '(', .plain ')', .plain '[']) :
    PassedOver ('[' :: text ++ [']']) := by
  obtain ⟨closes, kept⟩ := @upToBracket text true closed (paired.imp_left fun none => ⟨rfl, none⟩)
  have whole (rest : Text) : '[' :: text ++ [']'] ++ rest = '[' :: (text ++ ']' :: rest) := by simp
  constructor
  · intro depth rest
    rw [whole, closeGroup_cons (by decide)]
    simp only [Bool.not_false, Char.reduceBEq, Bool.and_false, Bool.false_and, Bool.false_eq_true,
      if_false]
    rw [closes]
    simp [Function.comp_def]
  · intro rest
    rw [whole, nonCapturingFrom_cons (by decide)]
    simp only [Char.reduceBEq, Bool.and_false, Bool.false_and, Bool.false_eq_true, if_false]
    rw [kept]
    simp

end PassedOver

end RoutePattern
