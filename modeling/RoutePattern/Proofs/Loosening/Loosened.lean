import RoutePattern.Proofs.Loosening.Composed
import RoutePattern.Proofs.Loosening.Routed

/-!
# Options that lose no match

A caller may loosen one option of a route: not insist on the slash at the end, not ask for the whole
text, or not regard case, the last for patterns that bring no regular expressions of their own
(`Loosens`). Whatever the route matched, it still matches (`isSome_matchStart_of_loosens`).
-/
namespace RoutePattern

open Regex
open Regex.Reader (Reads)

/-!
## Case

A literal character also counts for itself where case is ignored, and what the regular expressions of
the library accept with regard to case they accept without regard to it, too. So a route whose
placeholders have such regular expressions matches without regard to case whatever it matches with
regard to it (`Lenient.isSome_matchStart`). A regular expression of a caller need not: a negated set
accepts less where case is ignored.
-/

/-- The flags of a route for which case counts for nothing. -/
def Regex.Flags.caseless : Flags := { Flags.none with ignoreCase := true }

/-- An expression accepts without regard to case what it accepts with regard to it. -/
def Regex.Expr.IsLenient (expr : Expr) : Prop := expr.Widens .none .caseless

/-- A text is read by itself, as parts that accept without regard to case what they accept with
regard to it. -/
def Lenient (text : Text) (count : Nat) : Prop :=
  ∃ parts, Reads text count parts ∧ ∀ before, ∀ part ∈ parts before, part.IsLenient

/-! ## Expressions -/

namespace Regex.Expr

/-- A row of lenient parts is lenient. -/
theorem isLenient_sequence {parts : List Expr} (each : ∀ part ∈ parts, part.IsLenient) :
    (sequence parts).IsLenient := by
  induction parts with
  | nil => trivial
  | cons part parts ih =>
    exact ⟨each part (List.mem_cons_self ..), ih fun part found =>
      each part (List.mem_cons_of_mem _ found)⟩

/-- A literal character counts for itself. -/
theorem isLenient_char (code : Nat) : (char code).IsLenient := by
  intro c same
  have own : code = c.toNat := by simpa [sameCode, Flags.none] using same
  rw [own]
  exact sameCode_self ..

/-- Any character but one that has no case. -/
theorem isLenient_notChar {code : Nat} (caseless : Unicode.hasCase code = false) :
    (notChar code).IsLenient := by
  have matters (flags : Flags) (unicode : flags.ascii = false) : caseMatters flags code = false := by
    rw [caseMatters, unicode, if_neg Bool.false_ne_true, caseless, Bool.and_false]
  intro c other
  rw [sameCode_of_caseless (.inl (matters _ rfl))] at other ⊢
  exact other

/-- A digit is one without regard to case. -/
theorem isLenient_digit : (set false [.category .digit false]).IsLenient := by
  intro c holds
  have digit : Unicode.isDigit c.toNat = true := by
    simpa [setHolds, SetItem.holds, Category.holds, Flags.none] using holds
  simp [setHolds, SetItem.holdsIgnoringCase, Category.holds, Flags.caseless, Flags.none, lowerCode,
    Unicode.toLower_of_isDigit digit, digit]

/-- The end of a text is the same without regard to case. -/
theorem isLenient_textEnd : (ahead false (sequence [.anchor .lineEnd])).IsLenient :=
  ⟨rfl, fun charTest wider found => absurd found (by simp [sequence, single?])⟩

/-- The end of a segment is the same without regard to case. -/
theorem isLenient_segmentEnd : Reader.segmentEndExpr.IsLenient := by
  refine ⟨?_, fun charTest wider found =>
    absurd found (by simp [sequence, single?])⟩
  simp only [sequence, List.foldr_cons, List.foldr_nil, matcher, lead?, sameCode_slash_left,
    caseMatters_slash]
  rfl

/-- Whatever the library puts together is lenient. -/
theorem hereditary_isLenient : Hereditary IsLenient where
  char _ := isLenient_char _
  notChar := isLenient_notChar
  any _ := id
  digit := isLenient_digit
  anchor _ _ := id
  textEnd := isLenient_textEnd
  segmentEnd := isLenient_segmentEnd
  sequence := isLenient_sequence
  group := id
  loop inner gives := ⟨inner, fun possessive => absurd possessive gives⟩

end Regex.Expr

/-- The source of a row of tokens whose placeholders have regular expressions of the library. -/
theorem lenient_patternSource (options : Options) {tokens : List PatternToken}
    (known : ∀ placeholder ∈ placeholders tokens, placeholder.regex ∈ libraryRegexes) :
    ∃ count, Lenient (patternSource options tokens) count :=
  ReadsAs.patternSource Expr.hereditary_isLenient options known
    (fun _ _ _ _ => Expr.isLenient_char _) fun _ _ => Expr.isLenient_char _

/-- What is lenient matches without regard to case whatever it matches with regard to it. -/
theorem Lenient.isSome_matchStart {source : Text} {count : Nat} {program other : Program}
    (lenient : Lenient source count) (compilation : Program.compile source .none = .ok program)
    (compilation' : Program.compile source .caseless = .ok other) {text : Text}
    (found : (program.matchStart text).isSome) : (other.matchStart text).isSome := by
  obtain ⟨parts, reads, each⟩ := lenient
  obtain ⟨expr, flags, groups⟩ := compiled_of_reads reads compilation
  obtain ⟨expr', flags', groups'⟩ := compiled_of_reads reads compilation'
  have start := Program.stateAt_eq (groups'.trans groups.symm) text
  have inside : Matcher.Inside text (program.stateAt [] text) := ⟨rfl, rfl⟩
  rw [Program.isSome_matchStart, expr, flags] at found
  rw [Program.isSome_matchStart, expr', flags', start]
  have below := Expr.below_matcher (Expr.isLenient_sequence (each 0)) text .undecided .undecided
  have precedes := below _ _ _ (Stable.final text) (Lead.sound_undecided _)
  exact Precedes.isMatch precedes (inside.alike rfl rfl) found

/-! ## Loosened options -/

/-- Every placeholder of a pattern has a regular expression of the library: the pattern brings none
of its own, and all converters that it names are built in. -/
def UsesLibrary (own : Converters) (pattern : Text) : Prop :=
  ∀ tokens, tokenize own pattern = .ok tokens →
    ∀ placeholder ∈ placeholders tokens, placeholder.regex ∈ libraryRegexes

/-- A pattern without an opening parenthesis has no regular expression of its own. -/
theorem usesLibrary_of_not_mem {own : Converters} {pattern : Text}
    (builtin : OnlyBuiltin (Converters.extended own)) (free : '(' ∉ pattern) :
    UsesLibrary own pattern := fun _ => library_of_tokenize builtin free

/-- The second options are the first ones with one option loosened. -/
inductive Loosens (pattern : Text) : Options → Options → Prop where
  /-- A slash at the end is no longer insisted on. -/
  | strict (options : Options) :
    Loosens pattern { options with strict := true } { options with strict := false }
  /-- The text need no longer match as a whole. -/
  | whole (options : Options) :
    Loosens pattern { options with whole := true } { options with whole := false }
  /-- Case is no longer regarded. -/
  | sensitive (options : Options) (library : UsesLibrary options.converters pattern) :
    Loosens pattern { options with sensitive := true } { options with sensitive := false }

/-- What stands in front of the very end of a route does not end in the middle of an escape. -/
theorem isClosed_slashSource (options : Options) (slash : Bool) :
    Token.IsClosed (slashSource options slash) := by
  refine Token.isClosed_of_getLast? ?_
  unfold slashSource
  cases options.strict <;> cases slash <;> decide

/-- A pattern that compiles, cut in front of its end. -/
theorem routed_of_compilePattern {options : Options} {pattern : Text} {compiled : CompiledPath}
    (compiles : compilePattern options pattern = .ok compiled) :
    ∃ tokens, tokenize options.converters pattern = .ok tokens ∧
      Routed options tokens (routeFront tokens) (Closing.final options (endsInSlash tokens))
        compiled.program ∧
      Routed options tokens
        (routeFront tokens ++ slashSource options (endsInSlash tokens))
        (Closing.last options (endsInSlash tokens)) compiled.program := by
  obtain ⟨tokens, read, keys, groups, compilation⟩ := compilePattern_ok compiles
  have count : compiled.program.groups = (placeholders tokens).length := by
    rw [groups, keys, keys_eq, List.length_map]
  have cut := routeSource_eq options tokens
  refine ⟨tokens, read, ⟨rfl, cut, compilation, count⟩, ⟨rfl, ?_, compilation, count⟩⟩
  rw [cut, List.append_assoc, ← Closing.source_final]
  rfl

/-- A text that a route matches it also matches when one of its options is loosened. -/
theorem isSome_matchStart_of_loosens {pattern : Text} {options more : Options}
    (loosens : Loosens pattern options more) {compiled other : CompiledPath}
    (compiles : compilePattern options pattern = .ok compiled)
    (compiles' : compilePattern more pattern = .ok other) (text : Text)
    (found : (compiled.program.matchStart text).isSome) :
    (other.program.matchStart text).isSome := by
  obtain ⟨tokens, read, final, last⟩ := routed_of_compilePattern compiles
  obtain ⟨tokens', read', final', last'⟩ := routed_of_compilePattern compiles'
  cases loosens with
  | strict options =>
    obtain rfl : tokens = tokens' := Except.ok.inj (read.symm.trans read')
    exact final.isSome_matchStart final' (isClosed_routeFront tokens)
      (Closing.allows_final options (endsInSlash tokens)) found
  | whole options =>
    obtain rfl : tokens = tokens' := Except.ok.inj (read.symm.trans read')
    exact last.isSome_matchStart last'
      ((isClosed_routeFront tokens).append (isClosed_slashSource _ _))
      (Closing.allows_last options (endsInSlash tokens)) found
  | sensitive options library =>
    obtain rfl : tokens = tokens' := Except.ok.inj (read.symm.trans read')
    obtain ⟨count, lenient⟩ := lenient_patternSource { options with sensitive := true }
      (library tokens read)
    exact lenient.isSome_matchStart final.compilation final'.compilation found

/-- A pattern with a slash at the end, under the strictest options and with each of them loosened. -/
theorem isSome_matchStart_of_loosens_article :
    let pattern := "/Articles/\x7bid:int\x7d/".toList
    let text := "/Articles/42/".toList
    ∃ compiled, compilePattern exactOptions pattern = .ok compiled ∧
      (compiled.program.matchStart text).isSome ∧
      ∀ more ∈ [{ exactOptions with strict := false }, { exactOptions with whole := false },
          { exactOptions with sensitive := false }],
        Loosens pattern exactOptions more ∧ ∃ other, compilePattern more pattern = .ok other ∧
          (other.program.matchStart text).isSome := by
  intro pattern text
  have compiles {options : Options} (sound : (compilePattern options pattern).toOption.isSome) :
      ∃ compiled, compilePattern options pattern = .ok compiled := by
    cases made : compilePattern options pattern with
    | error failure => simp [made, Except.toOption] at sound
    | ok compiled => exact ⟨compiled, rfl⟩
  obtain ⟨compiled, exact⟩ := @compiles exactOptions (by decide +kernel)
  have found : (compiled.program.matchStart text).isSome := by
    have evaluated : ((compilePattern exactOptions pattern).toOption.any fun compiled =>
        (compiled.program.matchStart text).isSome) = true := by decide +kernel
    rw [exact] at evaluated
    exact evaluated
  have library : UsesLibrary exactOptions.converters pattern :=
    usesLibrary_of_not_mem onlyBuiltin_extended (by decide)
  have each {more : Options} (loosens : Loosens pattern exactOptions more)
      (sound : (compilePattern more pattern).toOption.isSome) :
      Loosens pattern exactOptions more ∧ ∃ other, compilePattern more pattern = .ok other ∧
        (other.program.matchStart text).isSome := by
    obtain ⟨other, loose⟩ := compiles sound
    exact ⟨loosens, other, loose, isSome_matchStart_of_loosens loosens exact loose text found⟩
  have strict := each (.strict exactOptions) (by decide +kernel)
  have whole := each (.whole exactOptions) (by decide +kernel)
  have sensitive := each (.sensitive exactOptions library) (by decide +kernel)
  exact ⟨compiled, exact, found, List.forall_mem_cons.2 ⟨strict, List.forall_mem_cons.2 ⟨whole,
    List.forall_mem_singleton.2 sensitive⟩⟩⟩

end RoutePattern
