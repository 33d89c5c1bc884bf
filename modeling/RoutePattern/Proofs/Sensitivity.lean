import RoutePattern.Proofs.Groups.Compiled
import RoutePattern.Proofs.Loosening.Loosened
import RoutePattern.Proofs.Matching.InStep.Expression
import RoutePattern.Proofs.Reading.Reflagged

/-!
# What regard to case changes

The option for case is a flag of the whole expression of a route, so that it reaches the regular
expressions of placeholders as well as the literals. A pattern compiles with it if and only if it
compiles without it, into the same expression (`compilePattern_sensitive`). Where no literal has a
character with a case, both match a text alike if the pattern brings no regular expressions of its
own, or if these say the same of the characters of the text with and without regard to case
(`matchStart_sensitive`).
-/
namespace RoutePattern

open Regex

/-! ## Compiling -/

/-- The same path under other flags. -/
def CompiledPath.withFlags (flags : Flags) (compiled : CompiledPath) : CompiledPath :=
  { compiled with program := compiled.program.withFlags flags }

/-- The source of a route is compiled in the same way with and without regard to case. -/
theorem compile_sensitive (options : Options) (sensitive : Bool) (tokens : List PatternToken) :
    Program.compile (patternSource options tokens) { options with sensitive := sensitive }.flags =
      (Program.compile (patternSource options tokens) options.flags).map
        (·.withFlags { options with sensitive := sensitive }.flags) := by
  let other : Options := { options with sensitive := sensitive }
  let source := Token.ofText (patternSource options tokens)
  have opening (options : Options) : Reader.readTokens (Token.ofText (patternSource options tokens))
      0 0 (Reader.start options.flags) =
      Reader.readTokens (Token.ofText (routeSource options tokens)) 0 1
        ((Reader.start options.flags).append [.anchor .lineStart]) :=
    Scan.readTokens_of_reaches (reaches_opening options tokens)
  have begun := begun_of_reaches (reaches_opening options tokens) (Nat.le_refl 1)
  have read : Reader.readTokens source 0 0 (Reader.start other.flags) =
      (Reader.readTokens source 0 0 (Reader.start options.flags)).map
        (·.withFlags other.flags) := by
    rw [show Reader.readTokens source 0 0 (Reader.start options.flags) = _ from opening options]
    exact (opening other).trans (Reader.readTokens_withFlags other.flags begun _ _ _)
  show (Reader.readTokens source 0 0 (Reader.start other.flags) >>= _) =
    (Reader.readTokens source 0 0 (Reader.start options.flags) >>= _).map _
  rw [read]
  cases Reader.readTokens source 0 0 (Reader.start options.flags) with
  | error refusal => rfl
  | ok reader => exact Program.ofReader_withFlags _ reader _

/-- A pattern compiles with regard to case if and only if it does without, and into the same
expression; it is refused with the same error. -/
theorem compilePattern_sensitive (options : Options) (sensitive : Bool) (pattern : Text) :
    compilePattern { options with sensitive := sensitive } pattern =
      (compilePattern options pattern).map
        (·.withFlags { options with sensitive := sensitive }.flags) := by
  unfold compilePattern
  dsimp only
  cases tokenize options.converters pattern with
  | error fault => rfl
  | ok tokens =>
    have compile := compile_sensitive options sensitive tokens
    show ((Program.compile (patternSource options tokens) _).mapError _ >>= _) =
      Except.map _ ((Program.compile (patternSource options tokens) _).mapError _ >>= _)
    rw [compile]
    cases Program.compile (patternSource options tokens) options.flags with
    | error refusal => rfl
    | ok program =>
      show (if program.groups = _ then _ else _) = Except.map _ (if program.groups = _ then _ else _)
      split
      · rfl
      · rfl

/-! ## Matching -/

/-- A program whose expression says the same of the characters of a text under flags with another
regard to case matches the same under these. -/
theorem Regex.Program.matchFrom_withFlags {program : Program} {flags : Flags} {spared : List Nat}
    (free : ∀ code ∈ spared, Unicode.hasCase code = false)
    (same : program.flags.SameButCase flags) {before after : Text}
    (alike : program.expr.readsAlike (before.reverse ++ after) spared false program.flags flags =
      true) :
    (program.withFlags flags).matchFrom before after = program.matchFrom before after := by
  have inStep := Expr.inStep_matcher free same alike .undecided .undecided
  have start : Abreast false (before.reverse ++ after) (program.stateAt before after)
      (program.stateAt before after) := .refl rfl rfl
  have both := inStep.first start
  show Option.map _ (((program.expr.matcher flags .undecided).first
    (program.stateAt before after)).ended?) = _
  unfold Program.matchFrom
  simp only
  generalize (program.expr.matcher program.flags .undecided).first _ = first at both ⊢
  generalize (program.expr.matcher flags .undecided).first _ = second at both ⊢
  cases both with
  | failed _ _ => rfl
  | matched abreast =>
    simp only [Attempt.ended?, Option.map_some, abreast.slots, Place.position, abreast.place]
    rfl

/-- An expression says the same of all characters, with and without regard to case. -/
def Regex.Expr.IgnoresCase (expr : Expr) : Prop :=
  ∀ text spared, expr.readsAlike text spared false .none .caseless = true

namespace Regex.Expr

/-- A character without case says the same of all characters. -/
theorem all_sameCode {code : Nat} (caseless : Unicode.hasCase code = false) (text : Text) :
    (text.all fun c => sameCode .caseless code c.toNat == sameCode .none code c.toNat) = true := by
  have own := caseMatters_of_caseless caseless
  refine List.all_eq_true.2 fun c _ => ?_
  rw [sameCode_of_caseless (.inl (own _)), sameCode_of_caseless (.inl (own _)), BEq.rfl]

/-- A literal character without case. -/
theorem ignoresCase_char {code : Nat} (caseless : Unicode.hasCase code = false) :
    (char code).IgnoresCase := by
  intro text spared
  simp [readsAlike, all_sameCode caseless]

/-- Any character but one without case. -/
theorem ignoresCase_notChar {code : Nat} (caseless : Unicode.hasCase code = false) :
    (notChar code).IgnoresCase := by
  intro text spared
  simp [readsAlike, all_sameCode caseless]

/-- A digit. -/
theorem ignoresCase_digit : (set false [.category .digit false]).IgnoresCase := by
  intro text spared
  simp [readsAlike, setHolds, SetItem.holdsIgnoringCase, SetItem.holds, Category.holds,
    Flags.caseless, Flags.none, lowerCode, Unicode.isDigit_toLower]

/-- A row of expressions. -/
theorem ignoresCase_sequence {parts : List Expr} (each : ∀ part ∈ parts, part.IgnoresCase) :
    (sequence parts).IgnoresCase := by
  intro text spared
  induction parts with
  | nil => rfl
  | cons part parts ih =>
    obtain ⟨first, others⟩ := List.forall_mem_cons.1 each
    exact Bool.and_eq_true_iff.2 ⟨first text spared, ih others⟩

/-- Whatever the library puts together says the same of all characters. -/
theorem hereditary_ignoresCase : Hereditary IgnoresCase where
  char := ignoresCase_char
  notChar := ignoresCase_notChar
  any _ _ := rfl
  digit := ignoresCase_digit
  anchor _ _ _ := rfl
  textEnd _ _ := rfl
  segmentEnd text spared := by
    have slash : (Expr.char '/'.toNat).readsAlike text spared false .none .caseless = true :=
      ignoresCase_char (by decide) text spared
    rw [readsAlike] at slash
    simp only [Reader.segmentEndExpr, sequence, List.foldr_cons, List.foldr_nil, readsAlike, slash,
      Bool.and_true]
  sequence := ignoresCase_sequence
  group inner := inner
  loop {least most appetite body} inner gives text spared := by
    have final : (appetite == .possessive) = false := beq_eq_false_iff_ne.2 gives
    rw [readsAlike, final]
    exact inner text spared

end Regex.Expr

/-! ## Routes -/

/-- No literal of a pattern has a character with a case. -/
def CaselessLiterals (tokens : List PatternToken) : Prop :=
  ∀ c ∈ literalText tokens, Unicode.hasCase c.toNat = false

/-- The expression of a pattern without regular expressions of its own says the same of all
characters, unless a literal has one with a case. -/
theorem ignoresCase_of_usesLibrary {options : Options} {pattern : Text}
    {tokens : List PatternToken} {program : Regex.Program} {flags : Flags}
    (read : tokenize options.converters pattern = .ok tokens)
    (library : UsesLibrary options.converters pattern) (caseless : CaselessLiterals tokens)
    (compilation : Program.compile (patternSource options tokens) flags = .ok program) :
    program.expr.IgnoresCase := by
  have leads : ∀ placeholder ∈ placeholders tokens, ∀ c ∈ placeholder.lead,
      (Expr.char c.toNat).IgnoresCase := by
    intro placeholder found c led
    refine Expr.ignoresCase_char ?_
    rcases isLead_of_readTokens read placeholder found with none | slash | point
    · exact absurd (none.symm.trans led) (by simp)
    · obtain rfl := Option.some.inj (slash.symm.trans led)
      decide
    · obtain rfl := Option.some.inj (point.symm.trans led)
      decide
  obtain ⟨count, parts, reads, each⟩ := ReadsAs.patternSource Expr.hereditary_ignoresCase options
    (library tokens read) leads fun c found => Expr.ignoresCase_char (caseless c found)
  rw [(compiled_of_reads reads compilation).1]
  exact Expr.ignoresCase_sequence (each 0)

/-- The flags of a route are those that the options ask for. -/
theorem flags_of_compile {options : Options} {tokens : List PatternToken} {program : Regex.Program}
    (compilation : Program.compile (patternSource options tokens) options.flags = .ok program) :
    program.flags = options.flags := by
  obtain ⟨final, reaches, done⟩ := exists_final_of_compile compilation
  have opening := reaches_opening options tokens
  have begun := begun_of_reaches opening (Nat.le_refl 1)
  have last := (Scan.Reaches.to_end opening reaches done).begun begun
  exact (compile_of_final compilation reaches done).flags.trans last.flags

/-- Where no literal has a character with a case, a pattern matches a text alike with and without
regard to case, if it brings no regular expressions of its own or if these say the same of the
characters of the text. -/
theorem matchStart_sensitive {options : Options} {pattern : Text} {tokens : List PatternToken}
    {compiled : CompiledPath} (read : tokenize options.converters pattern = .ok tokens)
    (caseless : CaselessLiterals tokens)
    (compiles : compilePattern { options with sensitive := true } pattern = .ok compiled) :
    ∃ other, compilePattern { options with sensitive := false } pattern = .ok other ∧
      other.keys = compiled.keys ∧ ∀ text,
        (UsesLibrary options.converters pattern ∨
          compiled.program.expr.readsAlike text ((literalText tokens).map Char.toNat) false
            .none .caseless = true) →
        other.program.matchStart text = compiled.program.matchStart text := by
  have other := compilePattern_sensitive { options with sensitive := true } false pattern
  rw [compiles] at other
  refine ⟨compiled.withFlags .caseless, other, rfl, fun text alike => ?_⟩
  obtain ⟨tokens', read', -, -, compilation⟩ := compilePattern_ok compiles
  obtain rfl : tokens = tokens' := Except.ok.inj (read.symm.trans read')
  have flags : compiled.program.flags = .none := flags_of_compile compilation
  have free : ∀ code ∈ (literalText tokens).map Char.toNat, Unicode.hasCase code = false := by
    intro code found
    obtain ⟨c, member, rfl⟩ := List.mem_map.1 found
    exact caseless c member
  have whole : compiled.program.expr.readsAlike text ((literalText tokens).map Char.toNat) false
      .none .caseless = true := by
    rcases alike with library | own
    · exact ignoresCase_of_usesLibrary read library caseless compilation text _
    · exact own
  have same : compiled.program.flags.SameButCase .caseless := by
    rw [flags]
    rfl
  rw [← flags] at whole
  exact @Program.matchFrom_withFlags _ _ _ free same [] text whole

/-- A class of small letters says the same of a text of small letters with and without regard to
case. -/
theorem matchStart_sensitive_letters :
    let pattern := "/:x([a-z]+)-:y".toList
    let text := "/ab-c".toList
    ∃ tokens compiled other, tokenize exactOptions.converters pattern = .ok tokens ∧
      CaselessLiterals tokens ∧
      compilePattern { exactOptions with sensitive := true } pattern = .ok compiled ∧
      compilePattern { exactOptions with sensitive := false } pattern = .ok other ∧
      (compiled.program.matchStart text).isSome = true ∧
      other.program.matchStart text = compiled.program.matchStart text := by
  intro pattern text
  have evaluated : ((tokenize exactOptions.converters pattern).toOption.any fun tokens =>
      ((literalText tokens).all fun c => !Unicode.hasCase c.toNat) &&
        (compilePattern exactOptions pattern).toOption.any fun compiled =>
          (compiled.program.matchStart text).isSome &&
            compiled.program.expr.readsAlike text ((literalText tokens).map Char.toNat) false
              .none .caseless) = true := by
    decide +kernel
  cases read : tokenize exactOptions.converters pattern with
  | error failure => simp [read, Except.toOption] at evaluated
  | ok tokens =>
    cases compiles : compilePattern exactOptions pattern with
    | error failure => simp [read, compiles, Except.toOption] at evaluated
    | ok compiled =>
      rw [read, compiles] at evaluated
      obtain ⟨literals, rest⟩ := Bool.and_eq_true_iff.1 evaluated
      obtain ⟨found, alike⟩ := Bool.and_eq_true_iff.1 rest
      have caseless : CaselessLiterals tokens := fun c member =>
        (Bool.not_eq_true' _).mp (List.all_eq_true.1 literals c member)
      obtain ⟨other, loose, -, same⟩ := matchStart_sensitive read caseless compiles
      exact ⟨tokens, compiled, other, rfl, caseless, compiles, loose, found, same text (.inr alike)⟩

/-- The option reaches a letter that is no literal of the pattern. -/
example :
    (["/a", "/A"].map fun text => ([true, false].map fun sensitive =>
      (compilePattern { exactOptions with sensitive := sensitive } "/:x(a)".toList).toOption.any
        fun compiled => (compiled.program.matchStart text.toList).isSome)) =
      [[true, true], [false, true]] := by decide +kernel

end RoutePattern
