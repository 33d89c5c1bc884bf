import RoutePattern.Proofs.Between.Matching
import RoutePattern.Proofs.Extent.Stop

/-!
# Escaped text

A backslash takes the meaning from the character after it, whatever this character means in a
pattern or in a regular expression. So a pattern that has a backslash before every character is one
literal, the text without these backslashes (`tokenize_escaped`), it is compiled into the characters
of this text, and it matches this text alone (`matchStart_escaped`).
-/
namespace RoutePattern

open Regex Regex.Reader

/-- A text with a backslash before every character. -/
def escaped (text : Text) : Text := text.flatMap fun c => ['\\', c]

/-- Under these options a pattern is compared with its case, up to the end of the path, and with no
slash added. -/
structure Options.IsExact (options : Options) : Prop where
  sensitive : options.sensitive = true
  strict : options.strict = true
  whole : options.whole = true

/-! ## Reading -/

section Reading

variable {converters : Converters} {pattern : Text}

/-- A character after a backslash is added to the literal text before it. -/
theorem readTokens_backslash {c : Char} (inLine : c ≠ '\n') (rest : Text) (position : Nat)
    (literal : Text) :
    readTokens converters pattern ('\\' :: c :: rest) 0 position literal =
      readTokens converters pattern rest 0 (position + 2) (c :: literal) := by
  have other : (c == '\n') = false := beq_eq_false_iff_ne.2 inLine
  rw [readTokens]
  simp only [other, Bool.false_eq_true, if_false]
  rw [readTokens]

/-- Escaped text is added to the literal text before it. -/
theorem readTokens_escaped {text : Text} (oneLine : '\n' ∉ text) (position : Nat)
    (literal : Text) :
    readTokens converters pattern (escaped text) 0 position literal =
      .ok (literalBefore (literal.reverse ++ text) []) := by
  induction text generalizing position literal with
  | nil => rw [escaped, List.flatMap_nil, readTokens, List.append_nil]
  | cons c text ih =>
    rw [List.mem_cons, not_or] at oneLine
    have text_eq : escaped (c :: text) = '\\' :: c :: escaped text := rfl
    rw [text_eq, readTokens_backslash (Ne.symm oneLine.1), ih oneLine.2, List.reverse_cons,
      List.append_assoc, List.singleton_append]

/-- An escaped text is one literal, unless it is empty. -/
theorem tokenize_escaped (own : Converters) {text : Text} (oneLine : '\n' ∉ text) :
    tokenize own (escaped text) = .ok (literalBefore text []) :=
  readTokens_escaped oneLine 0 []

end Reading

/-! ## Compiling -/

/-- The characters of a text, from the start to the end of a path. -/
def literalExpr (text : Text) : Expr :=
  .sequence (.anchor .lineStart :: ((text.map fun c => .char c.toNat) ++ [.anchor .lineEnd]))

section Literal

variable {options : Options} {pattern text : Text}

/-- A pattern that is one literal is compiled into the characters of this literal. -/
theorem compilePattern_literal (strict : options.strict = true) (whole : options.whole = true)
    (cut : tokenize options.converters pattern = .ok (literalBefore text [])) :
    ∃ source, compilePattern options pattern =
      .ok ⟨⟨source, options.flags, literalExpr text, 0, []⟩, []⟩ := by
  have source : routeSource options (literalBefore text []) = escapeRegex text ++ ['$'] := by
    simp only [routeSource, strict, whole, source_literalBefore, if_true, List.flatMap_nil,
      List.append_nil]
  have front := Reads.start.append (Reads.literal text) (startsUnsigned_escapeRegex _)
  have reading := front.append Reads.wholeEnd (by decide)
  have fixed : (literalExpr text).behindFixed = true := by
    rw [literalExpr, behindFixed_sequence]
    simp [List.all_append, Expr.behindFixed]
  have compiled : Program.compile ('^' :: routeSource options (literalBefore text []))
      options.flags = .ok ⟨'^' :: routeSource options (literalBefore text []), options.flags,
        literalExpr text, 0, []⟩ := by
    rw [source]
    exact compile_eq options.flags reading fixed
  refine ⟨'^' :: routeSource options (literalBefore text []), ?_⟩
  simp only [compilePattern, cut, keys_literalBefore, Except.mapError, bind, Except.bind, compiled]
  rfl

/-! ## Matching -/

/-- With regard to case, literal text takes nothing but itself. -/
theorem exists_rest_of_mem_chars {flags : Flags} (sensitive : flags.ignoreCase = false)
    {spot ended : Spot}
    (found : ended ∈ chain (text.map fun c => charEnds flags c.toNat) spot) :
    ∃ rest, spot.after = text ++ rest ∧ ended = spot.advance text rest := by
  induction text generalizing spot with
  | nil => exact ⟨spot.after, rfl, List.mem_singleton.1 found⟩
  | cons c text ih =>
    obtain ⟨middle, first, later⟩ := List.mem_flatMap.1 found
    have own : middle ∈ charEnds flags c.toNat spot := first
    unfold charEnds at own
    split at own
    · exact absurd own List.not_mem_nil
    · next d after cut =>
      split at own
      · next same =>
        have codes : c.toNat = d.toNat := by simpa [sameCode, sensitive] using same
        obtain rfl : c = d := Char.toNat_inj.1 codes
        obtain rfl := List.mem_singleton.1 own
        obtain ⟨rest, rfl, rfl⟩ := ih later
        exact ⟨rest, cut, Spot.advance_advance ..⟩
      · exact absurd own List.not_mem_nil

/-- The characters of a text match it, and it with a line end after it, and nothing else. -/
theorem matchStart_literal {flags : Flags} (sensitive : flags.ignoreCase = false)
    (oneLine : flags.multiline = false) (source path : Text) :
    ((⟨source, flags, literalExpr text, 0, []⟩ : Regex.Program).matchStart path).isSome = true ↔
      path = text ∨ path = text ++ ['\n'] := by
  have parts := List.rel_append (Expr.lists_literal text) (.cons (Expr.lists_lineEnd oneLine) .nil)
  have lists := Expr.lists_sequence (.cons (Expr.lists_lineStart oneLine) parts)
  have groups := matchStart_map_groups ⟨source, flags, literalExpr text, 0, []⟩ lists path
  rw [findSome?_lineStart] at groups
  have matched := congrArg Option.isSome groups
  rw [Option.isSome_map, Option.isSome_map, Option.isSome_map] at matched
  rw [matched, List.findSome?_isSome_iff]
  constructor
  · rintro ⟨ended, found, -⟩
    rw [chain_append, List.mem_flatMap] at found
    obtain ⟨middle, first, last⟩ := found
    obtain ⟨rest, cut, rfl⟩ := exists_rest_of_mem_chars sensitive first
    obtain rfl : path = text ++ rest := cut
    rw [chain_singleton] at last
    rcases (mem_lineEndEnds last).2 with ending | lineEnd
    · obtain rfl : rest = [] := ending
      exact .inl (List.append_nil text)
    · obtain rfl : rest = ['\n'] := lineEnd
      exact .inr rfl
  · intro fits
    obtain ⟨rest, rfl, ending⟩ : ∃ rest, path = text ++ rest ∧ (rest = [] ∨ rest = ['\n']) := by
      rcases fits with rfl | rfl
      · exact ⟨[], (List.append_nil _).symm, .inl rfl⟩
      · exact ⟨['\n'], rfl, .inr rfl⟩
    let start : Spot := ⟨⟨[], text ++ rest⟩, List.replicate 0 .unset⟩
    have taken : chain (text.map fun c => charEnds flags c.toNat) start =
        [start.advance text rest] := chain_chars flags rfl
    have last : lineEndEnds (start.advance text rest) = [start.advance text rest] := by
      rcases ending with rfl | rfl
      · rfl
      · rfl
    refine ⟨start.advance text rest, ?_, rfl⟩
    rw [chain_append, taken, List.flatMap_singleton, chain_singleton, last]
    exact List.mem_singleton_self _

end Literal

/-- A pattern with a backslash before every character is the one literal without these backslashes,
it can be compiled, and up to the end of a path it matches nothing but this literal. -/
theorem matchStart_escaped {options : Options} (exact : options.IsExact) {text : Text}
    (oneLine : '\n' ∉ text) :
    tokenize options.converters (escaped text) =
        .ok (if text = [] then [] else [.literal text]) ∧
      ∃ compiled, compilePattern options (escaped text) = .ok compiled ∧
        ∀ path, '\n' ∉ path →
          ((compiled.program.matchStart path).isSome = true ↔ path = text) := by
  have cut := tokenize_escaped options.converters oneLine
  have tokens : literalBefore text [] = if text = [] then [] else [.literal text] := by
    cases text with
    | nil => rfl
    | cons c text => rfl
  obtain ⟨source, compiled⟩ := compilePattern_literal exact.strict exact.whole cut
  refine ⟨cut.trans (congrArg Except.ok tokens), _, compiled, fun path inLine => ?_⟩
  have sensitive : options.flags.ignoreCase = false := by simp [Options.flags, exact.sensitive]
  rw [matchStart_literal sensitive rfl]
  refine or_iff_left ?_
  rintro rfl
  exact inLine (by simp)

/-- A text of signs that patterns and regular expressions give a meaning to. -/
def signText : Text := "/:a(b|c)*.\x7bd:int\x7d+?\\1[^e-f]#$ ".toList

/-- Every sign stands for itself behind a backslash. -/
theorem matchStart_escaped_signs :
    exactOptions.IsExact ∧ '\n' ∉ signText ∧
      tokenize exactOptions.converters (escaped signText) = .ok [.literal signText] ∧
      ∃ compiled, compilePattern exactOptions (escaped signText) = .ok compiled ∧
        (compiled.program.matchStart signText).isSome = true ∧
        (compiled.program.matchStart "/:a".toList).isSome = false := by
  have exact : exactOptions.IsExact := ⟨rfl, rfl, rfl⟩
  have oneLine : '\n' ∉ signText := by decide
  obtain ⟨tokens, compiled, found, matches_iff⟩ := matchStart_escaped exact oneLine
  refine ⟨exact, oneLine, tokens.trans ?_, compiled, found, ?_, ?_⟩
  · rw [if_neg (by decide)]
  · exact (matches_iff signText oneLine).2 rfl
  · have other := mt (matches_iff "/:a".toList (by decide)).1 (by decide)
    exact Bool.eq_false_iff.2 other

end RoutePattern
