import RoutePattern.Proofs.Language.Passing
import RoutePattern.Proofs.Scanner.Delimiting

/-!
# Bare parentheses, marked once

A regular expression is made non-capturing by marking its bare parentheses: `?:` is put behind them,
and nothing else changes (`IsMarkedAs`). A marked parenthesis is not bare any more, and the marks
neither open nor close anything. So marking twice marks nothing more (`nonCapturingFrom_idem`), and
the body of a group is still the body of a group when it is marked (`IsGroupBody.nonCapturingFrom`).
-/
namespace RoutePattern

open Regex (Token)

/-! ## What is added -/

/-- A text is another one with marks behind some of its opening parentheses: both are the same pieces
with a parenthesis between each two neighbours, here a bare one and there a marked one. -/
def IsMarkedAs (text marked : Text) : Prop :=
  ∃ piece pieces, text = Text.join ['('] (piece :: pieces) ∧
    marked = Text.join ['(', '?', ':'] (piece :: pieces)

namespace IsMarkedAs

variable {text marked : Text}

/-- The empty text has no parentheses. -/
theorem nil : IsMarkedAs [] [] := ⟨[], [], rfl, rfl⟩

/-- A character that stays as it is. -/
theorem cons (c : Char) (later : IsMarkedAs text marked) : IsMarkedAs (c :: text) (c :: marked) := by
  obtain ⟨piece, pieces, rfl, rfl⟩ := later
  refine ⟨c :: piece, pieces, ?_, ?_⟩
  · cases pieces <;> rfl
  · cases pieces <;> rfl

/-- A parenthesis that is marked. -/
theorem mark (later : IsMarkedAs text marked) :
    IsMarkedAs ('(' :: text) ('(' :: '?' :: ':' :: marked) := by
  obtain ⟨piece, pieces, rfl, rfl⟩ := later
  exact ⟨[], piece :: pieces, rfl, rfl⟩

end IsMarkedAs

/-- A regular expression that is made non-capturing is the same one with marks. -/
theorem isMarkedAs_nonCapturingFrom (inSet : Bool) (text : Text) :
    IsMarkedAs text (nonCapturingFrom inSet text) := by
  fun_induction nonCapturingFrom inSet text with
  | case1 => exact .nil
  | case2 => exact IsMarkedAs.nil.cons _
  | case3 inSet c rest ih => exact (ih.cons c).cons '\\'
  | case4 c rest _ _ ih => exact ih.cons c
  | case5 inSet c rest _ _ _ _ ih => exact ih.cons c
  | case6 inSet c rest _ _ _ _ bare ih =>
    obtain ⟨opening, -⟩ := Bool.and_eq_true_iff.1 bare
    obtain rfl := eq_of_beq opening
    exact ih.mark
  | case7 inSet c rest _ _ _ _ _ ih => exact ih.cons c

/-! ## What is left -/

/-- Marking a regular expression leaves its first character. -/
theorem head?_nonCapturingFrom (inSet : Bool) (text : Text) :
    (nonCapturingFrom inSet text).head? = text.head? := by
  fun_cases nonCapturingFrom inSet text with
  | case6 c rest _ _ _ _ bare =>
    obtain ⟨opening, -⟩ := Bool.and_eq_true_iff.1 bare
    exact congrArg some (eq_of_beq opening).symm
  | _ => rfl

/-- Marking a marked regular expression changes nothing. -/
theorem nonCapturingFrom_idem (inSet : Bool) (text : Text) :
    nonCapturingFrom inSet (nonCapturingFrom inSet text) = nonCapturingFrom inSet text := by
  -- A mark is neither a bracket nor a backslash, so the second pass meets every character with the
  -- same set open as the first one.
  fun_induction nonCapturingFrom inSet text with
  | case1 => rfl
  | case2 => rfl
  | case3 inSet c rest ih => rw [nonCapturingFrom, ih]
  | case4 c rest alone bare ih =>
    rw [nonCapturingFrom_cons (Token.ne_backslash alone bare)]
    simp [ih]
  | case5 inSet c rest alone bare out set ih =>
    obtain rfl := eq_false_of_ne_true out
    obtain rfl := eq_of_beq set
    rw [nonCapturingFrom_cons (by decide)]
    simp [ih]
  | case6 inSet c rest _ _ out _ _ ih =>
    obtain rfl := eq_false_of_ne_true out
    simp [nonCapturingFrom, ih]
  | case7 inSet c rest alone bare out set marked ih =>
    obtain rfl := eq_false_of_ne_true out
    have same : (c == '(' && (nonCapturingFrom false rest).head? != some '?') = false := by
      rw [head?_nonCapturingFrom]
      exact eq_false_of_ne_true marked
    rw [nonCapturingFrom_cons (Token.ne_backslash alone bare)]
    simp [same, set, ih]

/-- The first token stays when the tokens are marked. -/
theorem Regex.Token.head?_mark (inSet : Bool) (tokens : List Token) :
    (Token.mark inSet tokens).head? = tokens.head? := by
  cases tokens with
  | nil => rfl
  | cons token tokens =>
    rw [Token.mark]
    split
    · next bare =>
      simp only [Bool.and_eq_true, beq_iff_eq] at bare
      rw [bare.1.2]
      rfl
    · rfl

/-- Among marked tokens a question mark stands behind every parenthesis outside of sets. -/
theorem Regex.Token.head?_of_mark_eq {inSet : Bool} {tokens front rest : List Token}
    (cut : Token.mark inSet tokens = front ++ .plain '(' :: rest)
    (outside : front.foldl Token.inSetAfter inSet = false) : rest.head? = some (.plain '?') := by
  induction tokens generalizing inSet front with
  | nil => exact absurd cut (by simp [Token.mark])
  | cons token tokens ih =>
    rw [Token.mark] at cut
    split at cut
    · next bare =>
      simp only [Bool.and_eq_true, Bool.not_eq_true', beq_iff_eq] at bare
      obtain rfl := bare.1.1
      -- The parenthesis is the marked one itself or stands behind its mark.
      rcases front with _ | ⟨first, _ | ⟨second, _ | ⟨third, front⟩⟩⟩
      · obtain ⟨-, rfl⟩ := List.cons.inj cut
        rfl
      · exact absurd cut (by simp)
      · exact absurd cut (by simp)
      · simp only [List.cons_append, List.cons.injEq] at cut
        obtain ⟨rfl, rfl, rfl, cut⟩ := cut
        exact ih cut (by simpa using outside)
    · next marked =>
      cases front with
      | nil =>
        obtain ⟨rfl, rfl⟩ := List.cons.inj cut
        obtain rfl : inSet = false := outside
        rw [Token.head?_mark]
        simpa using marked
      | cons first front =>
        obtain ⟨rfl, later⟩ := List.cons.inj cut
        exact ih later outside

/-- The body of a group is still one when its parentheses are marked. -/
theorem IsGroupBody.nonCapturingFrom {depth : Nat} {inSet : Bool} {body : Text}
    (scanned : IsGroupBody depth inSet body) :
    IsGroupBody depth inSet (nonCapturingFrom inSet body) := by
  induction scanned with
  | nil => exact .nil
  | escape c _ ih =>
    rw [RoutePattern.nonCapturingFrom]
    exact .escape c ih
  | inside bare _ ih =>
    rw [nonCapturingFrom_cons bare]
    exact .inside bare ih
  | set _ ih =>
    rw [nonCapturingFrom_cons (by decide)]
    exact .set ih
  | opening _ ih =>
    rw [nonCapturingFrom_cons (by decide)]
    split
    · exact .opening (.other (by decide) (.other (by decide) ih))
    · exact .opening ih
  | closing _ ih =>
    rw [nonCapturingFrom_cons (by decide)]
    exact .closing ih
  | other plain _ ih =>
    have signs := plain
    simp only [List.mem_cons, List.not_mem_nil, or_false, not_or] at signs
    obtain ⟨bare, set, opening, -⟩ := signs
    rw [nonCapturingFrom_cons bare]
    simp only [beq_eq_false_iff_ne.2 set, beq_eq_false_iff_ne.2 opening, Bool.not_false,
      Bool.and_false, Bool.false_and, Bool.false_eq_true, if_false]
    exact .other plain ih

/-- Marking the bare parentheses of a regular expression puts marks behind some of its parentheses
and changes nothing else. Afterwards every parenthesis outside of escapes and sets has a question
mark behind it, and marking again changes nothing. The body of a group in a pattern is still the
whole body of a group when it is marked. -/
theorem nonCapturing_marksOnce (source : Text) :
    nonCapturing (nonCapturing source) = nonCapturing source ∧
      IsMarkedAs source (nonCapturing source) ∧
      (∀ front rest, Token.ofText (nonCapturing source) = front ++ .plain '(' :: rest →
        front.foldl Token.inSetAfter false = false → rest.head? = some (.plain '?')) ∧
      ∀ pattern start stop, pattern[start]? = some '(' →
        groupAt pattern start = .ok (source, stop) →
        groupAt ('(' :: nonCapturing source ++ [')']) 0 =
          .ok (nonCapturing source, (nonCapturing source).length + 2) := by
  refine ⟨nonCapturingFrom_idem false source, isMarkedAs_nonCapturingFrom false source,
    fun front rest cut outside => ?_, fun pattern start stop opens found => ?_⟩
  · rw [nonCapturing, Token.ofText_nonCapturingFrom] at cut
    exact Token.head?_of_mark_eq cut outside
  · obtain ⟨-, -, -, -, -, given, scanned⟩ := (groupAt_eq_ok_iff opens).1 found
    have kept : nonCapturing source ≠ [] := by
      have first := head?_nonCapturingFrom false source
      intro none
      rw [nonCapturing] at none
      rw [none] at first
      exact given (List.head?_eq_none_iff.1 first.symm)
    have again := groupAt_of_isGroupBody scanned.nonCapturingFrom kept [] []
    rwa [List.length_nil, Nat.zero_add] at again

/-- A pattern whose group holds groups of both kinds, a set and an escape with a parenthesis. -/
def nestedPattern : Text := "/:x((a(b))(?:[(]|\\())?".toList

/-- Two parentheses are marked in a body with groups of both kinds, a set and an escape, and between
parentheses the marked body is found again as a whole. -/
theorem nonCapturing_marksOnce_nested :
    let source := "(a(b))(?:[(]|\\()".toList
    let marked := "(?:a(?:b))(?:[(]|\\()".toList
    let front := Token.ofText "(?:a".toList
    let rest := Token.ofText "?:b))(?:[(]|\\()".toList
    nestedPattern[3]? = some '(' ∧ groupAt nestedPattern 3 = .ok (source, 21) ∧
      Token.ofText marked = front ++ .plain '(' :: rest ∧
      front.foldl Token.inSetAfter false = false ∧
      nonCapturing source = marked ∧ nonCapturing marked = marked ∧
      rest.head? = some (.plain '?') ∧
      groupAt ('(' :: marked ++ [')']) 0 = .ok (marked, 22) := by
  intro source marked front rest
  have opens : nestedPattern[3]? = some '(' := rfl
  have found : groupAt nestedPattern 3 = .ok (source, 21) := rfl
  have same : nonCapturing source = marked := rfl
  have cut : Token.ofText marked = front ++ .plain '(' :: rest := rfl
  have outside : front.foldl Token.inSetAfter false = false := rfl
  obtain ⟨twice, -, sign, again⟩ := nonCapturing_marksOnce source
  rw [same] at twice sign again
  exact ⟨opens, found, cut, outside, same, twice, sign front rest cut outside,
    again nestedPattern 3 21 opens found⟩

end RoutePattern
