import RoutePattern.Proofs.Language.Passing
import RoutePattern.Proofs.Reading.LexedRun
import RoutePattern.Proofs.Repeated

/-!
# Regular expressions of a parameter are taken whole

A parameter may bring a regular expression along, between parentheses. The scanner that looks for
its end counts parentheses, and the reader of regular expressions opens and closes groups. Both
agree along all lexemes of a regular expression that compiles (`Regex.closeGroup_of_lexed`), as long
as the scanner meets no parenthesis in a set: it takes the first bracket for the end of a set, while
a set that begins with a bracket goes on. Where such a set holds no parenthesis up to its next
bracket, the pattern is one token with the whole regular expression (`tokenize_takesWhole`).
-/
namespace RoutePattern

namespace Regex

variable {reader next last : Reader} {position : Nat} {lexeme : Lexeme}

/-- Where a lexeme begins, a question mark after a parenthesis stands for a group that only holds
its contents together, looks around or is atomic, and a set that begins with a bracket holds no
parenthesis up to the next bracket. -/
def Scan.IsPaired (scan : Scan) : Prop :=
  scan.skip = 0 → Token.HasSign groupSigns scan.tokens = true ∧
    ∀ token ∈ Token.behindBracket scan.tokens, token ∉ [.plain '(', .plain ')']

instance : DecidablePred Scan.IsPaired := fun scan =>
  inferInstanceAs (Decidable (scan.skip = 0 → _ ∧ _))

/-- The open groups after a lexeme. -/
def Lexeme.depth (lexeme : Lexeme) (depth : Nat) : Nat :=
  match lexeme with
  | opening _ | capture => depth + 1
  | closing => depth - 1
  | _ => depth

/-- A lexeme opens or closes the groups that are open after it. -/
theorem Lexeme.depth_of_act (acts : lexeme.act position reader = some next) :
    next.outer.length = lexeme.depth reader.outer.length ∧
      (lexeme = .closing → 0 < reader.outer.length) := by
  cases lexeme with
  | part expr =>
    obtain rfl := Option.some.inj acts
    exact ⟨rfl, by simp⟩
  | repetition least most appetite =>
    obtain ⟨item, items, -, -, rfl⟩ := act_repetition_eq.1 acts
    exact ⟨rfl, by simp⟩
  | bar =>
    obtain ⟨-, rfl⟩ := act_bar_eq.1 acts
    exact ⟨rfl, by simp⟩
  | opening head =>
    obtain rfl := Option.some.inj acts
    cases head <;> exact ⟨rfl, by simp⟩
  | capture =>
    obtain rfl := Option.some.inj acts
    exact ⟨rfl, by simp⟩
  | closing =>
    obtain ⟨outermost, outer, inside, rfl⟩ := act_closing_eq.1 acts
    simp [inside, depth, Reader.closeFrame]
  | comment =>
    obtain rfl := Option.some.inj acts
    exact ⟨rfl, by simp⟩

/-- Over a lexeme the scanner counts the groups that the reader opens and closes. -/
theorem closeGroup_lexeme {tokens left : List Token} (spells : lexeme.Spells left tokens)
    (whole : ∀ token ∈ tokens, token.IsWhole)
    (paired : (⟨reader, tokens ++ left, 0, position⟩ : Scan).IsPaired) {depth : Nat}
    (inside : lexeme = .closing → 0 < depth) (rest : Text) :
    closeGroup depth false (tokens.flatMap Token.text ++ rest) =
      (closeGroup (lexeme.depth depth) false rest).map fun found =>
        (tokens.flatMap Token.text ++ found.1, found.2) := by
  obtain ⟨signed, paired⟩ := paired rfl
  have inert {tokens : List Token} (whole : ∀ token ∈ tokens, token.IsWhole)
      (inert : ∀ token ∈ tokens, token.IsInert) (depth : Nat) :
      closeGroup depth false (tokens.flatMap Token.text ++ rest) =
        (closeGroup depth false rest).map fun found =>
          (tokens.flatMap Token.text ++ found.1, found.2) := by
    rw [closeGroup_passing whole, Token.foldl_inSetAfter_of_inert inert]
    intro token found parenthesis
    refine inert token (Token.mem_of_mem_outside found) ?_
    simp only [List.mem_cons, List.not_mem_nil, or_false] at parenthesis ⊢
    tauto
  -- The scanner looks for parentheses and brackets only; a set opens and closes its own bracket.
  cases spells with
  | part _ _ plain => exact inert whole plain depth
  | repetition _ _ _ _ plain => exact inert whole plain depth
  | bar => exact inert whole (by simp [Token.IsInert]) depth
  | set expr _ sound closed =>
    rw [closeGroup_passing whole, Token.foldl_inSetAfter_set]
    · rfl
    intro token found
    rcases Token.mem_behindBracket_of_outside closed left found with bracket | behind
    · simp only [List.mem_cons, List.not_mem_nil, or_false] at bracket ⊢
      rcases bracket with rfl | rfl <;> simp
    · exact paired token (by simpa using behind)
  | opening head =>
    have marks : ∀ token ∈ Token.plain '?' :: head.signs.map .plain, token.IsInert := by
      rcases head with _ | ⟨_ | _⟩ | ⟨_ | _⟩ | _ <;> simp [Opening.signs, Token.IsInert]
    rw [List.flatMap_cons, Token.text, List.append_assoc, List.singleton_append,
      closeGroup_cons (by decide)]
    simp only [Bool.not_false, Char.reduceBEq, Bool.and_false, Bool.false_and, Bool.false_eq_true,
      if_false, if_true]
    rw [inert (List.forall_mem_cons.1 whole).2 marks, Option.map_map]
    rfl
  | capture =>
    rw [List.flatMap_singleton, Token.text, List.singleton_append, closeGroup_cons (by decide)]
    simp [Lexeme.depth]
  | closing =>
    rw [List.flatMap_singleton, Token.text, List.singleton_append, closeGroup_cons (by decide)]
    have := inside rfl
    simp [Lexeme.depth, this.ne']
  | comment => exact absurd signed (by simp [Token.HasSign, groupSigns])

/-- Along a source the scanner finds the parenthesis behind it. -/
theorem closeGroup_of_lexed {tokens : List Token}
    (run : Lexed Scan.IsPaired last reader position tokens)
    (whole : ∀ token ∈ tokens, token.IsWhole) (rest : Text) :
    closeGroup reader.outer.length false (tokens.flatMap Token.text ++ ')' :: rest) =
      some (tokens.flatMap Token.text, rest) := by
  induction run with
  | done closed =>
    rw [closed, List.flatMap_nil, List.nil_append, closeGroup_cons (by decide)]
    simp
  | step spells acts _ paired _ ih =>
    obtain ⟨here, later⟩ := List.forall_mem_append.1 whole
    obtain ⟨depth, inside⟩ := Lexeme.depth_of_act acts
    rw [List.flatMap_append, List.append_assoc, closeGroup_lexeme spells here paired inside,
      ← depth, ih later]
    rfl

end Regex

open Regex

/-- A regular expression that compiles is taken whole from between the parentheses of a parameter,
if it names no group and changes no flag, and no parenthesis stands in a set behind a bracket that
the set begins with, up to its next bracket: the pattern is one token, and its regular expression is
made non-capturing. -/
theorem tokenize_takesWhole {source name : Text} {program : Program}
    (compiled : Program.compile source .none = .ok program) (some : source ≠ [])
    (paired : ∀ scan, (Scan.start source .none).Reaches scan → scan.IsPaired)
    (own : Converters) (given : name ≠ []) (chars : ∀ c ∈ name, isNameChar c = true)
    (modifier : Modifier) :
    tokenize own (ownParameter name source modifier) =
      .ok [.placeholder (ownPlaceholder name (nonCapturing source) modifier)] := by
  have signed (scan : Scan) (paired : scan.IsPaired) (front : scan.skip = 0) :
      Token.HasSign ('#' :: groupSigns) scan.tokens = true := by
    have known := (paired front).1
    unfold Token.HasSign at known ⊢
    split at known
    · rw [List.any_cons, known, Bool.or_true]
    · rfl
  obtain ⟨last, -, run⟩ := lexed_of_compile compiled signed paired
  have whole : ∀ token ∈ Token.ofText source, token.IsWhole := fun token found =>
    Token.isWhole_of_mem_ofText found fun dangling => run.sound (dangling ▸ found)
  have closes := closeGroup_of_lexed run whole modifier.text
  rw [Token.flatMap_text_ofText] at closes
  exact tokenize_ownParameter own given chars some closes

/-- Parentheses in groups, escapes and sets, one of which begins with a bracket. -/
theorem tokenize_takesWhole_nested :
    let source := "((?!\\))[^][(]b|[)])+".toList
    (∃ program, Program.compile source .none = .ok program) ∧
      (∀ scan, (Scan.start source .none).Reaches scan → scan.IsPaired) ∧
      tokenize .empty (ownParameter ['x'] source .once) =
        .ok [.placeholder (ownPlaceholder ['x'] (nonCapturing source) .once)] := by
  intro source
  have paired : ∀ scan, (Scan.start source .none).Reaches scan → scan.IsPaired :=
    Scan.forall_of_trace (by decide +kernel)
  have compiles : (Program.compile source .none).isOk = true := by decide +kernel
  cases compiled : Program.compile source .none with
  | error refusal => exact absurd compiles (by simp [compiled, Except.isOk, Except.toBool])
  | ok program =>
    exact ⟨⟨program, rfl⟩, paired,
      tokenize_takesWhole compiled (by decide) paired .empty (List.cons_ne_nil _ _)
        (List.forall_mem_singleton.2 (by decide +kernel)) .once⟩

end RoutePattern
