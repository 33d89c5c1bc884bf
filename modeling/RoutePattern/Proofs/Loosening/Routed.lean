import RoutePattern.Proofs.Loosening.Closing
import RoutePattern.Proofs.Matching.Comparison.Alternation

/-!
# Routes with one front

If a route compiles with either of two ends, the reader is the same in front of both ends, and the
two expressions have their branches in common, but for the end that the last one has
(`exists_before`). So a text that the route matches with the one end it matches with an end that is
allowed in its place (`Routed.isSome_matchStart`).
-/
namespace RoutePattern

open Regex
open Regex.Scan (facing)

/-! ## Fronts that can be cut off -/

/-- A literal as a regular expression does not end in the middle of an escape. -/
theorem isClosed_escapeRegex (text : Text) : Token.IsClosed (escapeRegex text) := by
  induction text with
  | nil => exact List.not_mem_nil
  | cons c text ih =>
    have one : Token.IsClosed (if regexSpecials.contains c then ['\\', c] else [c]) := by
      by_cases special : regexSpecials.contains c = true
      · rw [if_pos special, Token.IsClosed, Token.ofText_escape]
        exact fun found => Token.escaped_ne_dangling c (List.mem_singleton.1 found).symm
      · have plain : c ≠ '\\' := by
          rintro rfl
          exact special (by decide)
        rw [if_neg special, Token.IsClosed, Token.ofText_cons plain]
        exact fun found => Token.plain_ne_dangling c (List.mem_singleton.1 found).symm
    exact one.append ih

/-- The source of a row of tokens does not end in the middle of an escape. -/
theorem isClosed_sources (tokens : List PatternToken) :
    Token.IsClosed (tokens.flatMap PatternToken.source) := by
  induction tokens with
  | nil => exact List.not_mem_nil
  | cons token tokens ih =>
    refine Token.IsClosed.append ?_ ih
    cases token with
    | literal text => exact isClosed_escapeRegex text
    | placeholder found =>
      refine Token.isClosed_of_getLast? ?_
      rcases found.getLast?_source with last | last
      · rw [PatternToken.source, last]
        decide
      · rw [PatternToken.source, last]
        decide

/-- The front of a route does not end in the middle of an escape. -/
theorem isClosed_routeFront (tokens : List PatternToken) : Token.IsClosed (routeFront tokens) := by
  obtain ⟨others, -, front⟩ := exists_routeFront tokens
  rw [← front]
  exact isClosed_sources others

/-! ## Two ends -/

/-- Two readers that are reached at the end of one source are the same. -/
theorem Regex.Scan.eq_of_reaches_end {origin : Scan} {last other : Reader} {place position : Nat}
    (first : origin.Reaches (facing last place []))
    (second : origin.Reaches (facing other position [])) : last = other := by
  have done {one two : Reader} {place position : Nat}
      (later : (facing one place []).Reaches (facing two position [])) : one = two := by
    rcases Relation.ReflTransGen.cases_head later with same | ⟨middle, next, -⟩
    · exact congrArg Scan.reader same
    · exact absurd next (by simp [facing, Token.ofText, Scan.next?])
  rcases Nat.le_total place position with before | after
  · exact done (first.of_le second before)
  · exact (done (second.of_le first after)).symm

/-- Tokens without placeholders are read without a bar. -/
theorem branches_of_placeholders {options : Options} {tokens : List PatternToken} {last : Reader}
    {place : Nat} (none : placeholders tokens = [])
    (reaches : (Scan.start (patternSource options tokens) options.flags).Reaches
      (facing last place [])) : last.frame.branches = [] := by
  have grouped : Grouped options tokens := by
    intro places found
    rw [groupPlaces_eq_nil none] at found
    exact absurd found List.not_mem_nil
  obtain ⟨parts, other, position, growth, known, -⟩ := exists_last grouped
  rw [Scan.eq_of_reaches_end reaches known, growth.frame]
  rfl

/-- A route, cut where its end begins, compiles to a program with one group for each placeholder. -/
structure Routed (options : Options) (tokens : List PatternToken) (front : Text) {flags : Flags}
    (closing : Closing flags) (program : Program) : Prop where
  flags : options.flags = flags
  cut : routeSource options tokens = front ++ closing.source
  compilation : Program.compile (patternSource options tokens) options.flags = .ok program
  count : program.groups = (placeholders tokens).length

variable {options more : Options} {tokens : List PatternToken} {front : Text} {flags : Flags}
  {one two : Closing flags} {program other : Program}

/-- The reader after the sign for the start of the text. -/
def opened (flags : Flags) : Reader := (Reader.start flags).append [.anchor .lineStart]

namespace Routed

/-- The front of a route is faced after the sign for the start of the text. -/
theorem reaches (route : Routed options tokens front one program) :
    (Scan.start (patternSource options tokens) options.flags).Reaches
      (facing (opened flags) 1 (front ++ one.source)) := by
  have opening := reaches_opening options tokens
  rw [route.cut, route.flags] at opening
  rw [route.flags]
  exact opening

/-- The front of a route and its end are read. -/
theorem readTokens (route : Routed options tokens front one program) : ∃ last,
    Reader.readTokens (Token.ofText (front ++ one.source)) 0 1 (opened flags) = .ok last := by
  have reading : Reader.readTokens (Token.ofText (patternSource options tokens)) 0 0
      (Reader.start options.flags) = Reader.readTokens _ 0 1 (opened flags) :=
    Scan.readTokens_of_reaches route.reaches
  have compilation := route.compilation
  unfold Program.compile at compilation
  rw [reading] at compilation
  obtain ⟨last, read, -⟩ := exists_of_bind compilation
  exact ⟨last, read⟩

/-- A reader in front of the end of a route. -/
theorem before {reader : Reader} (route : Routed options tokens front one program)
    (reaches : (facing (opened flags) 1 (front ++ one.source)).Reaches
      (facing reader (1 + front.length) one.source)) :
    CompiledBefore options program reader one.parts ∧
      (placeholders tokens = [] → reader.frame.branches = []) := by
  have reached := route.reaches.trans reaches
  refine ⟨compiled_of_front route.compilation one.reads (Nat.le_add_right ..) reached,
    fun none => ?_⟩
  have closing := reaches_parts one.reads reader (1 + front.length) [] (by decide)
  rw [List.append_nil] at closing
  have last := branches_of_placeholders none (reached.trans closing)
  exact last

end Routed

/-- A route that compiles with two ends has one reader in front of both. -/
theorem exists_before (first : Routed options tokens front one program)
    (second : Routed more tokens front two other) (closed : Token.IsClosed front)
    (apart : Apart one.source two.source) :
    ∃ reader, CompiledBefore options program reader one.parts ∧
      CompiledBefore more other reader two.parts ∧
      (placeholders tokens = [] → reader.frame.branches = []) := by
  obtain ⟨last, read⟩ := first.readTokens
  obtain ⟨last', read'⟩ := second.readTokens
  have begun : (opened flags).Begun flags :=
    first.flags ▸ begun_of_reaches first.reaches (Nat.le_refl 1)
  obtain ⟨reader, reaches, reaches'⟩ :=
    exists_facing one.isEnding two.isEnding apart closed begun read read'
  obtain ⟨compiled, alone⟩ := first.before reaches
  exact ⟨reader, compiled, (second.before reaches').1, alone⟩

/-! ## Matches -/

/-- A program matches at the start of a text where its expression does. -/
theorem Regex.Program.isSome_matchStart (program : Program) (text : Text) :
    (program.matchStart text).isSome ↔
      ((program.expr.matcher program.flags .undecided).first (program.stateAt [] text)).IsMatch := by
  unfold Program.matchStart Program.matchFrom
  rw [Option.isSome_map]
  cases (program.expr.matcher program.flags .undecided).first (program.stateAt [] text) with
  | failed noted =>
    constructor
    · exact fun found => absurd found (by simp [Attempt.ended?])
    · rintro ⟨_, matched⟩
      exact Attempt.noConfusion matched
  | matched state => exact ⟨fun _ => ⟨state, rfl⟩, fun _ => rfl⟩

/-- Programs with the same count of groups start from the same state. -/
theorem Regex.Program.stateAt_eq {program other : Program} (groups : other.groups = program.groups)
    (text : Text) : other.stateAt [] text = program.stateAt [] text := by
  rw [Program.stateAt, groups, Program.stateAt]

/-- Going on to the end is possible wherever a match ends. -/
theorem Regex.Stable.final (text : Text) : Stable text fun ended => .matched ended.note :=
  fun _ t _ => ⟨trivial, t.note, rfl⟩

/-- A text that a route matches with one end it matches with an end that is allowed in its place. -/
theorem Routed.isSome_matchStart (first : Routed options tokens front one program)
    (second : Routed more tokens front two other) (closed : Token.IsClosed front)
    (allows : one.Allows two) {text : Text} (found : (program.matchStart text).isSome) :
    (other.matchStart text).isSome := by
  obtain ⟨reader, compiled, compiled', alone⟩ := exists_before first second closed allows.apart
  obtain ⟨ends, precedes⟩ := allows.precedes text
  have groups : other.groups = program.groups := second.count.trans first.count.symm
  have start := Program.stateAt_eq groups text
  have inside : Matcher.Inside text (program.stateAt [] text) := ⟨rfl, rfl⟩
  have many : reader.frame.branches.reverse = [] ∨
      0 < program.expr.groupCount ∧ 0 < other.expr.groupCount := by
    by_cases none : placeholders tokens = []
    · exact .inl (by rw [alone none, List.reverse_nil])
    · rw [compiled.groups, compiled'.groups, groups, first.count]
      exact .inr ⟨List.length_pos_of_ne_nil none, List.length_pos_of_ne_nil none⟩
  rw [Program.isSome_matchStart, compiled.flags, first.flags] at found
  rw [Program.isSome_matchStart, compiled'.flags, second.flags, start]
  rw [compiled.expr] at found many
  rw [compiled'.expr] at many ⊢
  refine Expr.isMatch_last (Stable.final text) inside many ?_ found
  exact Precedes.isMatch (Expr.precedes_append reader.frame.branch precedes)
    (inside.alike rfl rfl)

end RoutePattern
