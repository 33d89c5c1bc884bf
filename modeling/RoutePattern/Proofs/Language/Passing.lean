import RoutePattern.Proofs.Language.Scanned
import RoutePattern.Proofs.Reading.Lexeme

/-!
# Tokens that the scanner passes over

The scanner for the groups of a pattern goes over a regular expression token by token, and knows
no more than whether a set is open, and how many groups are. It takes the first bracket for the end
of a set, also where a set begins with a bracket. Tokens that it meets outside of sets
(`Token.outside`) count as parentheses; all others it passes over (`closeGroup_passing`).
-/
namespace RoutePattern

namespace Regex.Token

/-- A token that the scanner reads as one. -/
def IsWhole (token : Token) : Prop := token ∉ [.dangling, .plain '\\']

/-- The tokens of a text are read as one, but for a backslash at its end. -/
theorem isWhole_of_mem_ofText {text : Text} {token : Token} (found : token ∈ ofText text)
    (sound : token ≠ .dangling) : token.IsWhole := by
  fun_induction ofText text with
  | case1 => exact absurd found List.not_mem_nil
  | case2 => exact absurd (List.mem_singleton.1 found) sound
  | case3 c text ih =>
    rcases List.mem_cons.1 found with rfl | found
    · simp [IsWhole]
    · exact ih found
  | case4 c text alone bare ih =>
    rcases List.mem_cons.1 found with rfl | found
    · have plain : c ≠ '\\' := ne_backslash alone bare
      simpa [IsWhole] using plain
    · exact ih found

/-- After a token the scanner takes a set for open. -/
def inSetAfter (inSet : Bool) (token : Token) : Bool :=
  if inSet then token ≠ .plain ']' else token = .plain '['

/-- An escape opens and closes no set. -/
@[simp] theorem inSetAfter_escaped (inSet : Bool) (c : Char) :
    inSetAfter inSet (.escaped c) = inSet := by
  cases inSet <;> simp [inSetAfter]

/-- A character opens or closes a set if it is a bracket. -/
@[simp] theorem inSetAfter_plain (inSet : Bool) (c : Char) :
    inSetAfter inSet (.plain c) = if inSet then c != ']' else c == '[' := by
  cases inSet <;> rw [Bool.eq_iff_iff] <;> simp [inSetAfter]

/-- The tokens that the scanner meets where it takes no set for open. -/
def outside : (inSet : Bool) → List Token → List Token
  | _, [] => []
  | true, token :: tokens => outside (inSetAfter true token) tokens
  | false, token :: tokens => token :: outside (inSetAfter false token) tokens

/-- A token is met outside of sets if it comes first there, or later on. -/
theorem mem_outside_cons {inSet : Bool} {token first : Token} {tokens : List Token} :
    token ∈ outside inSet (first :: tokens) ↔
      (inSet = false ∧ token = first) ∨ token ∈ outside (inSetAfter inSet first) tokens := by
  cases inSet <;> simp [outside]

/-- What stands in a set behind a bracket that the set begins with, up to the next bracket. -/
def behindBracket : List Token → List Token
  | .plain '[' :: .plain ']' :: tokens
  | .plain '[' :: .plain '^' :: .plain ']' :: tokens =>
    tokens.takeWhile fun token => token ∉ [.plain '[', .plain ']']
  | _ => []

end Regex.Token

open Regex (Token)

variable {inSet : Bool} {token : Token} {tokens : List Token}

/-- A token that opens and closes no group. -/
theorem closeGroup_token (whole : token.IsWhole)
    (inert : inSet = false → token ∉ [.plain '(', .plain ')']) (depth : Nat) (rest : Text) :
    closeGroup depth inSet (token.text ++ rest) =
      (closeGroup depth (token.inSetAfter inSet) rest).map fun found =>
        (token.text ++ found.1, found.2) := by
  cases token with
  | dangling => exact absurd (List.mem_cons_self ..) whole
  | escaped c => simp [Token.text, closeGroup]
  | plain c =>
    have bare : c ≠ '\\' := by
      rintro rfl
      exact whole (by simp)
    rw [Token.text, List.singleton_append, closeGroup_cons bare]
    cases inSet with
    | true => simp
    | false =>
      have other := inert rfl
      simp only [List.mem_cons, Token.plain.injEq, List.not_mem_nil, or_false, not_or] at other
      simp [other.1, other.2]

/-- The scanner finds the end of a group behind tokens that open and close no group. -/
theorem closeGroup_passing (whole : ∀ token ∈ tokens, token.IsWhole)
    (inert : ∀ token ∈ Token.outside inSet tokens, token ∉ [.plain '(', .plain ')']) (depth : Nat)
    (rest : Text) :
    closeGroup depth inSet (tokens.flatMap Token.text ++ rest) =
      (closeGroup depth (tokens.foldl Token.inSetAfter inSet) rest).map fun found =>
        (tokens.flatMap Token.text ++ found.1, found.2) := by
  induction tokens generalizing inSet with
  | nil => simp
  | cons token tokens ih =>
    obtain ⟨first, others⟩ := List.forall_mem_cons.1 whole
    have here : inSet = false → token ∉ [.plain '(', .plain ')'] :=
      fun out => inert _ (Token.mem_outside_cons.2 (.inl ⟨out, rfl⟩))
    have later := ih others fun other found => inert other (Token.mem_outside_cons.2 (.inr found))
    rw [List.flatMap_cons, List.append_assoc, closeGroup_token first here, later, Option.map_map]
    simp [Function.comp_def]

/-! ## Lexemes -/

namespace Regex.Token

/-- Inert tokens open no set. -/
theorem foldl_inSetAfter_of_inert (inert : ∀ token ∈ tokens, token.IsInert) :
    tokens.foldl inSetAfter false = false := by
  induction tokens with
  | nil => rfl
  | cons token tokens ih =>
    obtain ⟨first, others⟩ := List.forall_mem_cons.1 inert
    have closed : token.inSetAfter false = false := by
      have other : token ≠ .plain '[' := fun same => first (by simp [same])
      simp [inSetAfter, other]
    rw [List.foldl_cons, closed, ih others]

/-- What is met outside of sets are tokens. -/
theorem mem_of_mem_outside (found : token ∈ outside inSet tokens) : token ∈ tokens := by
  induction tokens generalizing inSet with
  | nil => cases inSet <;> exact absurd found List.not_mem_nil
  | cons first tokens ih =>
    rcases mem_outside_cons.1 found with ⟨-, rfl⟩ | found
    · exact List.mem_cons_self ..
    · exact List.mem_cons_of_mem _ (ih found)

/-- Behind a bracket that closes a set the scanner takes no set for open. -/
theorem foldl_inSetAfter_set (tokens : List Token) :
    (tokens ++ [Token.plain ']']).foldl inSetAfter inSet = false := by
  rw [List.foldl_append]
  cases tokens.foldl inSetAfter inSet <;> simp

/-- Inside of a set the scanner meets nothing up to the next bracket that closes it. -/
theorem outside_inner (closed : .plain ']' ∉ tokens) :
    outside true (tokens ++ [.plain ']']) = [] := by
  induction tokens with
  | nil => simp [outside]
  | cons first tokens ih =>
    obtain ⟨other, closed⟩ := List.ne_and_not_mem_of_not_mem_cons closed
    simp [outside, inSetAfter, other.symm, ih closed]

/-- Behind a bracket that it takes for the end of a set the scanner meets what stands in front of
the next bracket. -/
theorem mem_takeWhile_of_outside (closed : .plain ']' ∉ tokens) (left : List Token)
    (found : token ∈ outside false (tokens ++ [.plain ']'])) :
    token ∈ [.plain '[', .plain ']'] ∨ token ∈ (tokens ++ .plain ']' :: left).takeWhile fun token =>
      token ∉ [.plain '[', .plain ']'] := by
  induction tokens with
  | nil => simp_all [outside]
  | cons first tokens ih =>
    obtain ⟨other, closed⟩ := List.ne_and_not_mem_of_not_mem_cons closed
    rcases mem_outside_cons.1 found with ⟨-, rfl⟩ | later
    · by_cases bracket : token = .plain '['
      · exact .inl (by simp [bracket])
      · exact .inr (by simp [bracket, other.symm])
    · by_cases bracket : first = .plain '['
      · subst bracket
        exact absurd (outside_inner closed ▸ later) List.not_mem_nil
      · have after : inSetAfter false first = false := by simp [inSetAfter, bracket]
        rw [after] at later
        refine (ih closed later).imp_right fun found => ?_
        rw [List.cons_append, List.takeWhile_cons, if_pos (by simp [bracket, other.symm])]
        exact List.mem_cons_of_mem _ found

/-- The scanner meets nothing in a set but what stands behind a bracket that it begins with. -/
theorem mem_behindBracket_of_outside {inner : List Token}
    (closed : .plain ']' ∉ (setBody inner).tail) (left : List Token)
    (found : token ∈ outside false (.plain '[' :: inner ++ [.plain ']'])) :
    token ∈ [.plain '[', .plain ']'] ∨
      token ∈ behindBracket (.plain '[' :: inner ++ .plain ']' :: left) := by
  rcases mem_outside_cons.1 found with ⟨-, rfl⟩ | found
  · exact .inl (by simp)
  -- A set begins with a bracket, perhaps behind the sign that negates it, or it holds none.
  by_cases bracket : (setBody inner).head? = some (.plain ']')
  · obtain ⟨body, same⟩ : ∃ body, setBody inner = .plain ']' :: body := by
      cases shape : setBody inner with
      | nil => exact absurd bracket (by simp [shape])
      | cons first body => exact ⟨body, by simpa [shape] using bracket⟩
    rw [same, List.tail_cons] at closed
    have inner : (inner = .plain ']' :: body) ∨ inner = .plain '^' :: .plain ']' :: body := by
      unfold setBody at same
      split at same
      · next negated =>
        right
        cases inner with
        | nil => exact absurd negated (by simp)
        | cons first inner => simp_all
      · exact .inl same
    rcases inner with rfl | rfl
    · exact (mem_takeWhile_of_outside closed left found).imp_right id
    · exact (mem_takeWhile_of_outside closed left found).imp_right id
  · have body : .plain ']' ∉ setBody inner := fun found => by
      cases shape : setBody inner with
      | nil => exact absurd (shape ▸ found) List.not_mem_nil
      | cons first body =>
        rw [shape] at found closed bracket
        rcases List.mem_cons.1 found with rfl | found
        · exact bracket rfl
        · exact closed found
    have none : .plain ']' ∉ inner := fun found => by
      unfold setBody at body
      split at body
      · next negated =>
        cases inner with
        | nil => exact absurd found List.not_mem_nil
        | cons first inner => simp_all
      · exact body found
    exact absurd (outside_inner none ▸ found) List.not_mem_nil

end Regex.Token

/-!
## Sources with every bare parenthesis marked

A regular expression is made non-capturing by putting a question mark and a colon behind every
parenthesis that has no question mark yet and stands outside of sets, as the scanner takes them.
This goes token by token (`Token.ofText_nonCapturingFrom`). What is in front of the first
parenthesis stays the same (`Token.beginAlike_mark`), and so do all tokens among which the scanner
meets no parenthesis (`Token.mark_append`).
-/

open Regex

namespace Regex.Token

/-- The tokens with every bare parenthesis marked; `inSet` tells whether the scanner takes a set for
open. -/
def mark : (inSet : Bool) → List Token → List Token
  | _, [] => []
  | inSet, token :: tokens =>
    if !inSet && token == .plain '(' && tokens.head? != some (.plain '?') then
      .plain '(' :: .plain '?' :: .plain ':' :: mark false tokens
    else token :: mark (inSetAfter inSet token) tokens

variable {inSet : Bool} {tokens : List Token}

/-- The first token of a text is a question mark if the text starts with one. -/
theorem head?_ofText_eq_iff (text : Text) :
    (ofText text).head? = some (.plain '?') ↔ text.head? = some '?' := by
  refine ⟨fun found => ?_, fun found => ?_⟩
  · by_contra other
    exact head?_ofText_ne other found
  · obtain ⟨rest, rfl⟩ := List.head?_eq_some_iff.1 found
    rw [ofText_cons (by decide)]
    rfl

/-- A source is made non-capturing token by token. -/
theorem ofText_nonCapturingFrom (inSet : Bool) (text : Text) :
    ofText (nonCapturingFrom inSet text) = mark inSet (ofText text) := by
  fun_induction ofText text generalizing inSet with
  | case1 => rfl
  | case2 => cases inSet <;> rfl
  | case3 c rest ih =>
    rw [nonCapturingFrom, ofText_escape, ih, mark, inSetAfter_escaped]
    simp
  | case4 c rest alone bare ih =>
    have plain : c ≠ '\\' := ne_backslash alone bare
    have sign : ((ofText rest).head? != some (.plain '?')) = (rest.head? != some '?') := by
      rw [Bool.eq_iff_iff, bne_iff_ne, bne_iff_ne, ne_eq, head?_ofText_eq_iff]
    have same : (Token.plain c == .plain '(') = (c == '(') := by
      rw [Bool.eq_iff_iff]
      simp
    rw [nonCapturingFrom_cons plain, mark, sign, same]
    split
    · rw [ofText_cons (by decide), ofText_cons (by decide), ofText_cons (by decide), ih]
    · rw [ofText_cons plain, ih, inSetAfter_plain]

/-- Up to the first parenthesis nothing changes. -/
theorem beginAlike_mark (inSet : Bool) (tokens : List Token) :
    BeginAlike (mark inSet tokens) tokens := by
  induction tokens generalizing inSet with
  | nil => exact .nil
  | cons token tokens ih =>
    rw [mark]
    split
    · next bare =>
      simp only [Bool.and_eq_true, beq_iff_eq] at bare
      rw [bare.1.2]
      exact .parenthesis _ _
    · exact (ih _).cons token

/-- Tokens among which the scanner meets no parenthesis stay as they are. -/
theorem mark_append (bare : .plain '(' ∉ outside inSet tokens) (rest : List Token) :
    mark inSet (tokens ++ rest) = tokens ++ mark (tokens.foldl inSetAfter inSet) rest := by
  induction tokens generalizing inSet with
  | nil => rfl
  | cons token tokens ih =>
    have here : ¬(!inSet && token == .plain '(' &&
        (tokens ++ rest).head? != some (.plain '?')) = true := by
      intro opening
      simp only [Bool.and_eq_true, Bool.not_eq_true', beq_iff_eq] at opening
      exact bare (mem_outside_cons.2 (.inl ⟨opening.1.1, opening.1.2.symm⟩))
    rw [List.cons_append, mark, if_neg here,
      ih fun found => bare (mem_outside_cons.2 (.inr found))]
    rfl

end Regex.Token

end RoutePattern
