import RoutePattern.CommandLine.Run
import RoutePattern.Proofs.Groups.Compiled
import RoutePattern.Proofs.Groups.Alignment
import RoutePattern.Proofs.Reading.Endings.Run
import RoutePattern.Proofs.Reading.Faults

/-!
# Malformed patterns

A pattern compiles or is refused with an error of patterns, unless reading its regular expression gets
to a count of repetitions or a code point that is too large to be read (`MeetsLargeNumber`). This is
the only way in which a malformed pattern goes wrong otherwise, and the only way in which the command
that matches a path ends without an outcome (`malformed_iff`).
-/
namespace RoutePattern

open Regex CommandLine
open Regex.Scan (facing)

/-- Reading the regular expression of a pattern gets to a number that is too large. -/
def MeetsLargeNumber (options : Options) (pattern : Text) : Prop :=
  ∃ tokens scan, tokenize options.converters pattern = .ok tokens ∧
    (Scan.start (patternSource options tokens) options.flags).Reaches scan ∧ scan.Meets

/-- What the options ask for at the end of a route holds no backslash. -/
theorem bare_finalSource (options : Options) (slash : Bool) :
    finalSource options slash ≠ [] ∧ '\\' ∉ finalSource options slash := by
  unfold finalSource tailSource
  cases options.strict <;> cases options.whole <;> cases slash <;> decide

/-- The source of a pattern does not end in a backslash. -/
theorem isClosed_patternSource (options : Options) (tokens : List PatternToken) :
    Token.IsClosed (patternSource options tokens) := by
  obtain ⟨some, bare⟩ := bare_finalSource options (endsInSlash tokens)
  refine Token.isClosed_of_getLast? fun last => bare (List.mem_of_getLast? ?_)
  rwa [patternSource, routeSource_eq, ← List.cons_append, List.getLast?_append_of_ne_nil _ some]
    at last

/-- Whatever is wrong with an expression that has been read is a fault. -/
theorem responds_ofReader (source : Text) (reader : Reader) :
    Responds (Program.ofReader source reader) := by
  unfold Program.ofReader
  simp only
  split
  · exact .fault ..
  · exact .ite (fun _ => .ok trivial) fun _ => .fault ..

/-- The source of a pattern compiles or has a fault unless reading it gets to a number that is too
large. -/
theorem overflows_compile_iff (options : Options) (tokens : List PatternToken) :
    Overflows (Program.compile (patternSource options tokens) options.flags) ↔
      ∃ scan, (Scan.start (patternSource options tokens) options.flags).Reaches scan ∧
        scan.Meets := by
  have opening := reaches_opening options tokens
  constructor
  · intro overflows
    by_contra small
    refine Answers.not_overflows (.bind ?_ fun reader _ => responds_ofReader _ reader) overflows
    have begun := begun_of_reaches opening (Nat.le_refl 1)
    have responds := Scan.responds_readTokens begun rfl (by
      rintro ⟨scan, later, meets⟩
      exact small ⟨scan, opening.trans later, meets⟩)
    rwa [← Scan.readTokens_of_reaches opening] at responds
  · rintro ⟨scan, reaches, meets⟩
    exact (Scan.readTokens_overflows reaches meets (isClosed_patternSource options tokens)).bind _

/-- A refusal is an error of patterns exactly if it is a fault. -/
theorem isFault_iff (pattern source : Text) (refusal : Refusal) :
    refusal.IsFault ↔ ∃ error, CompileError.ofRefusal pattern source refusal = .pattern error := by
  cases refusal <;> simp [Refusal.IsFault, CompileError.ofRefusal]

variable {options : Options} {pattern : Text}

/-- Where the source of a pattern is refused, so is the pattern. -/
theorem compilePattern_of_refused {tokens : List PatternToken} {refusal : Refusal}
    (read : tokenize options.converters pattern = .ok tokens)
    (refused : Program.compile (patternSource options tokens) options.flags = .error refusal) :
    compilePattern options pattern =
      .error (.ofRefusal pattern (patternSource options tokens) refusal) := by
  rw [patternSource] at refused
  simp only [compilePattern, read, Except.mapError, bind, Except.bind, refused]
  rfl

/-- A pattern compiles, is refused with an error of patterns, or has a source that is refused. -/
theorem compilePattern_cases (options : Options) (pattern : Text) :
    (∃ compiled, compilePattern options pattern = .ok compiled) ∨
      (∃ error, compilePattern options pattern = .error (.pattern error)) ∨
        ∃ tokens refusal, tokenize options.converters pattern = .ok tokens ∧
          Program.compile (patternSource options tokens) options.flags = .error refusal := by
  cases read : tokenize options.converters pattern with
  | error error => exact .inr (.inl ⟨error, by rw [compilePattern, read]; rfl⟩)
  | ok tokens =>
    cases compilation : Program.compile (patternSource options tokens) options.flags with
    | error refusal => exact .inr (.inr ⟨tokens, refusal, rfl, compilation⟩)
    | ok program =>
      rw [patternSource] at compilation
      simp only [compilePattern, read, Except.mapError, bind, Except.bind, compilation]
      split
      · exact .inl ⟨_, rfl⟩
      · exact .inr (.inl ⟨_, rfl⟩)

/-- A pattern is refused otherwise than with an error of patterns exactly if reading its regular
expression gets to a number that is too large. -/
theorem exists_failure_iff :
    (∃ failure, compilePattern options pattern = .error failure ∧
      ¬∃ error, failure = .pattern error) ↔ MeetsLargeNumber options pattern := by
  constructor
  · rintro ⟨failure, refused, other⟩
    obtain ⟨compiled, compiles⟩ | ⟨error, known⟩ | ⟨tokens, refusal, read, compilation⟩ :=
      compilePattern_cases options pattern
    · exact absurd (compiles.symm.trans refused) (by simp)
    · exact absurd ⟨error, Except.error.inj (refused.symm.trans known)⟩ other
    · have same := compilePattern_of_refused read compilation
      rw [Except.error.inj (refused.symm.trans same)] at other
      obtain ⟨scan, large⟩ := (overflows_compile_iff options tokens).1
        ⟨refusal, compilation, fun fault => other ((isFault_iff ..).1 fault)⟩
      exact ⟨tokens, scan, read, large⟩
  · rintro ⟨tokens, scan, read, large⟩
    obtain ⟨refusal, compilation, other⟩ := (overflows_compile_iff options tokens).2 ⟨scan, large⟩
    exact ⟨_, compilePattern_of_refused read compilation, (isFault_iff ..).not.1 other⟩

/-! ## The command line -/

/-- A route of a pattern is refused for the slash at its end, or as the pattern is. -/
theorem make_error_iff {settings : Settings} {name : Text} {failure : CompileError} :
    Route.make (.pattern pattern) settings name = .error failure ↔
      Route.isUnreachable settings.options pattern = true ∧
          failure = .pattern (.unreachable pattern) ∨
        Route.isUnreachable settings.options pattern = false ∧
          compilePattern settings.options pattern = .error failure := by
  cases closed : Route.isUnreachable settings.options pattern with
  | true =>
    simp [Route.make, Route.compileSource, closed, bind, Except.bind, eq_comm]
  | false =>
    cases compilation : compilePattern settings.options pattern with
    | error refusal =>
      simp [Route.make, Route.compileSource, closed, compilation, bind, Except.bind]
    | ok compiled =>
      simp [Route.make, Route.compileSource, closed, compilation, bind, Except.bind, pure,
        Except.pure]

/-- The command that matches a path ends without an outcome exactly if the route is refused otherwise
than with an error of patterns. -/
theorem runMatch_error_iff {roles : List OptionRole} {path : Text} {failure : CompileError} :
    runMatch roles pattern path = .error failure ↔
      Route.make (.pattern pattern) (settingsOf roles) [] = .error failure ∧
        ¬∃ error, failure = .pattern error := by
  unfold runMatch
  split
  · next error made =>
    rw [made]
    simp only [reduceCtorEq, Except.error.injEq, false_iff, not_and, not_not]
    exact fun same => ⟨error, same.symm⟩
  · next error other made =>
    rw [made]
    simp only [Except.error.injEq, iff_self_and]
    rintro rfl ⟨own, same⟩
    exact other own same
  · next route made =>
    rw [made]
    split <;> simp

/-- The command that matches a path has an outcome exactly if the pattern is refused for its end, or
no number in it is too large. -/
theorem exists_outcome_iff {roles : List OptionRole} {path : Text} :
    (∃ outcome, runMatch roles pattern path = .ok outcome) ↔
      Route.isUnreachable (settingsOf roles).options pattern = true ∨
        ¬MeetsLargeNumber (settingsOf roles).options pattern := by
  have refused : (∃ outcome, runMatch roles pattern path = .ok outcome) ↔
      ¬∃ failure, runMatch roles pattern path = .error failure := by
    cases runMatch roles pattern path <;> simp
  simp only [refused, runMatch_error_iff, make_error_iff, ← exists_failure_iff]
  cases Route.isUnreachable (settingsOf roles).options pattern <;> simp

/-- A pattern compiles or is refused with an error of patterns, unless reading its regular expression
gets to a count of repetitions or a code point that is too large to be read. This holds for all
options, all converters of a caller among them. The command that matches a path then ends without an
outcome; otherwise it ends every refusal of a pattern with a message and the exit status one. -/
theorem malformed_iff (pattern : Text) :
    (∀ options, (∃ compiled, compilePattern options pattern = .ok compiled) ∨
        (∃ error, compilePattern options pattern = .error (.pattern error)) ↔
          ¬MeetsLargeNumber options pattern) ∧
      ∀ roles path, ((∃ outcome, runMatch roles pattern path = .ok outcome) ↔
          (Route.isUnreachable (settingsOf roles).options pattern = true ∨
            ¬MeetsLargeNumber (settingsOf roles).options pattern)) ∧
        ∀ failure outcome,
          Route.make (.pattern pattern) (settingsOf roles) [] = .error failure →
            runMatch roles pattern path = .ok outcome →
              outcome.status = 1 ∧ outcome.output = [] ∧
                outcome.errors = "Error: ".toList ++ failure.message ++ ['\n'] := by
  refine ⟨fun options => ?_, fun roles path => ⟨exists_outcome_iff, ?_⟩⟩
  · rw [← exists_failure_iff]
    cases compilePattern options pattern with
    | error failure => simp
    | ok compiled => simp
  · intro failure outcome made done
    obtain ⟨error, rfl⟩ : ∃ error, failure = .pattern error := by
      by_contra other
      exact absurd (done.symm.trans (runMatch_error_iff.2 ⟨made, other⟩)) (by simp)
    rw [runMatch, made] at done
    obtain rfl := Except.ok.inj done
    exact ⟨rfl, rfl, rfl⟩

/-- A count of repetitions that is too large ends the command without an outcome, and an open group
with an exit status. -/
theorem malformed_iff_count :
    MeetsLargeNumber (settingsOf []).options "/:x(a\x7b4294967295\x7d)".toList ∧
      (¬∃ outcome, runMatch [] "/:x(a\x7b4294967295\x7d)".toList "/a".toList = .ok outcome) ∧
      ∃ outcome, runMatch [] "/:x(a".toList "/a".toList = .ok outcome ∧ outcome.status = 1 := by
  have refused : compilePattern (settingsOf []).options "/:x(a\x7b4294967295\x7d)".toList =
      .error .repetitionTooLarge := by decide +kernel
  obtain ⟨compiles, runs⟩ := malformed_iff "/:x(a\x7b4294967295\x7d)".toList
  have large : MeetsLargeNumber (settingsOf []).options "/:x(a\x7b4294967295\x7d)".toList := by
    by_contra small
    have answered := (compiles (settingsOf []).options).2 small
    rw [refused] at answered
    simp at answered
  refine ⟨large, ?_, ?_⟩
  · rw [(runs [] "/a".toList).1]
    exact fun answered => answered.elim (by decide) fun small => small large
  · obtain ⟨failure, made⟩ : ∃ failure,
        Route.make (.pattern "/:x(a".toList) (settingsOf []) [] = .error failure := ⟨_, rfl⟩
    obtain ⟨outcome, done⟩ : ∃ outcome, runMatch [] "/:x(a".toList "/a".toList = .ok outcome :=
      ⟨_, rfl⟩
    exact ⟨outcome, done, ((malformed_iff "/:x(a".toList).2 [] "/a".toList).2 failure outcome made
      done |>.1⟩

/-- A code point that is too large inside a set. -/
example : compilePattern (settingsOf []).options "/:x([a\\U80000000])".toList =
    .error .codePointTooLarge := by decide +kernel

end RoutePattern
