import RoutePattern.Proofs.Groups.Compiled
import RoutePattern.Proofs.Groups.Places
import RoutePattern.Proofs.Groups.Alignment
import RoutePattern.Proofs.Matching.Comparison.Expression
import RoutePattern.Proofs.Segments.Matching

/-!
# Where the match of a route stops

The end of a route is tried last, so a match stops where this end allows it: at the end of the text
or, unless the whole text has to match, at the end of a segment. The end of the text is taken as the
syntax of regular expressions takes it, and a line end that comes last does not count for it
(`stop_of_matchStart`).
-/
namespace RoutePattern

open Regex
open Regex.Scan (facing)

/-- The ends of the end of a route, with those of a slash that has to stay. -/
def finalEnds (options : Options) (slash : Bool) : List (Spot → List Spot) :=
  if options.strict && slash then
    charEnds options.flags '/'.toNat :: if options.whole then [lineEndEnds] else []
  else tailEnds options

/-- The parts of the end of a route have its ends, with those of a slash that has to stay. -/
theorem lists_finalParts (options : Options) (slash : Bool) :
    List.Forall₂ (fun part ends => part.Lists options.flags ends) (finalParts options slash)
      (finalEnds options slash) := by
  have char : (Expr.char '/'.toNat).Lists options.flags (charEnds options.flags '/'.toNat) :=
    Expr.lists_char _
  have lineEnd : (Expr.anchor .lineEnd).Lists options.flags lineEndEnds := Expr.lists_lineEnd rfl
  unfold finalParts finalEnds
  split
  · cases options.whole with
    | false => exact .cons char .nil
    | true => exact .cons char (.cons lineEnd .nil)
  · exact lists_tailParts options

/-! ## Ends -/

/-- The end of the text, or the place before a last line end. -/
theorem mem_lineEndEnds {spot ended : Spot} (found : ended ∈ lineEndEnds spot) :
    ended = spot ∧ (spot.after = [] ∨ spot.after = ['\n']) := by
  unfold lineEndEnds at found
  split at found
  · next last =>
    refine ⟨List.mem_singleton.1 found, ?_⟩
    simpa using last
  · exact absurd found List.not_mem_nil

/-- The place after a slash. -/
theorem mem_charEnds_slash {flags : Flags} {spot ended : Spot}
    (found : ended ∈ charEnds flags '/'.toNat spot) :
    ∃ rest, spot.after = '/' :: rest ∧ ended = spot.advance ['/'] rest := by
  unfold charEnds at found
  split at found
  · exact absurd found List.not_mem_nil
  · next c rest cut =>
    split at found
    · next same =>
      rw [sameCode_slash_left, beq_iff_eq] at same
      obtain rfl : c = '/' := Char.toNat_inj.1 same
      exact ⟨rest, cut, List.mem_singleton.1 found⟩
    · exact absurd found List.not_mem_nil

/-- The end of a row comes from the last part of the row. -/
theorem exists_of_mem_chain {before : List (Spot → List Spot)} {last : Spot → List Spot}
    {spot ended : Spot} (found : ended ∈ chain (before ++ [last]) spot) :
    ∃ middle, ended ∈ last middle := by
  rw [chain_append, chain_singleton] at found
  obtain ⟨middle, -, member⟩ := List.mem_flatMap.1 found
  exact ⟨middle, member⟩

/-- What the options ask of the place where a route ends; `slash` tells whether the route ends in a
slash. -/
def ClosesAt (options : Options) (slash : Bool) (place : Place) : Prop :=
  place.after = [] ∨ place.after = ['\n'] ∨ options.whole = false ∧ (place.after.head? = some '/' ∨
    options.strict = true ∧ slash = true ∧ place.before.head? = some '/')

/-- What comes last in a route asks this of its end. -/
theorem closesAt_of_mem_closingEnds {options : Options} (slash : Bool) {spot ended : Spot}
    (found : ended ∈ closingEnds options spot) : ClosesAt options slash ended.toPlace := by
  unfold closingEnds at found
  split at found
  · obtain ⟨rfl, last | lineEnd⟩ := mem_lineEndEnds found
    · exact .inl last
    · exact .inr (.inl lineEnd)
  · next partly =>
    obtain ⟨looked, first, rfl⟩ := List.mem_map.1 found
    have member := List.mem_of_mem_head? (Option.mem_toList.1 first)
    rcases List.mem_append.1 member with ahead | ahead
    · obtain ⟨rest, cut, -⟩ := mem_charEnds_slash ahead
      exact .inr (.inr ⟨by simpa using partly, .inl (by simp [cut])⟩)
    · obtain ⟨-, last | lineEnd⟩ := mem_lineEndEnds ahead
      · exact .inl last
      · exact .inr (.inl lineEnd)

/-- A route ends where the options allow it. -/
theorem closesAt_of_mem_finalEnds {options : Options} {slash : Bool} {spot ended : Spot}
    (found : ended ∈ chain (finalEnds options slash) spot) :
    ClosesAt options slash ended.toPlace := by
  unfold finalEnds at found
  split at found
  · next kept =>
    cases whole : options.whole with
    | true =>
      rw [whole] at found
      obtain ⟨middle, member⟩ :=
        @exists_of_mem_chain [charEnds options.flags '/'.toNat] _ _ _ found
      obtain ⟨rfl, last | lineEnd⟩ := mem_lineEndEnds member
      · exact .inl last
      · exact .inr (.inl lineEnd)
    | false =>
      rw [whole] at found
      obtain ⟨middle, member⟩ := @exists_of_mem_chain [] _ _ _ found
      obtain ⟨rest, -, rfl⟩ := mem_charEnds_slash member
      obtain ⟨strict, ending⟩ := Bool.and_eq_true_iff.1 kept
      exact .inr (.inr ⟨whole, .inr ⟨strict, ending, rfl⟩⟩)
  · obtain ⟨middle, member⟩ := exists_of_mem_chain found
    exact closesAt_of_mem_closingEnds slash member

/-! ## Matches -/

/-- The end of a route is read with no bar before it outside of all parentheses. -/
def Unbranched (options : Options) (tokens : List PatternToken) : Prop :=
  ∃ reader, (Scan.start (patternSource options tokens) options.flags).Reaches
    (facing reader (1 + (routeFront tokens).length) (finalSource options (endsInSlash tokens))) ∧
      reader.frame.branches = []

/-- Where the parentheses of every placeholder are those of a group, there is no such bar. -/
theorem Grouped.unbranched {options : Options} {tokens : List PatternToken}
    (grouped : Grouped options tokens) : Unbranched options tokens := by
  obtain ⟨parts, middle, growth, reaches, -⟩ := exists_front grouped
  refine ⟨middle, reaches, ?_⟩
  rw [growth.frame]
  rfl

/-- A place of a text is one where a route may end: the end of the text or, unless the whole text has
to match, the place in front of a slash or, after a pattern that has to keep its slash at the end,
the place behind one. -/
def IsBoundary (options : Options) (pattern text : Text) (stop : Nat) : Prop :=
  stop = text.length ∨ options.whole = false ∧ (text[stop]? = some '/' ∨
    options.strict = true ∧ pattern.getLast? = some '/' ∧ (text.take stop).getLast? = some '/')

/-- The place of a state in its text. -/
theorem Regex.Place.getElem?_position {text : Text} {place : Place} (inside : place.text = text) :
    text.drop place.position = place.after ∧ (text.take place.position).reverse = place.before := by
  rw [← inside, Place.text, Place.position, ← List.length_reverse, List.drop_left, List.take_left,
    List.reverse_reverse]
  exact ⟨rfl, rfl⟩

/-- Where the options allow a route to end is a boundary, or a line end comes last. -/
theorem ClosesAt.isBoundary {options : Options} {tokens : List PatternToken} {pattern text : Text}
    {place : Place} (read : tokenize options.converters pattern = .ok tokens)
    (closes : ClosesAt options (endsInSlash tokens) place) (inside : place.text = text) :
    IsBoundary options pattern text place.position ∨ text.drop place.position = ['\n'] := by
  obtain ⟨after, before⟩ := Place.getElem?_position inside
  have bound : place.position ≤ text.length := by
    rw [← inside, Place.text, Place.position, List.length_append, List.length_reverse]
    exact Nat.le_add_right ..
  rcases closes with last | lineEnd | ⟨partly, ahead | ⟨strict, slash, behind⟩⟩
  · refine .inl (.inl (Nat.le_antisymm bound ?_))
    rwa [last, List.drop_eq_nil_iff] at after
  · exact .inr (after.trans lineEnd)
  · refine .inl (.inr ⟨partly, .inl ?_⟩)
    rw [← List.head?_drop, after, ahead]
  · refine .inl (.inr ⟨partly, .inr ⟨strict, getLast?_of_endsInSlash read slash, ?_⟩⟩)
    rw [← List.head?_reverse, before, behind]

/-- A match of a route starts where the text starts and, if the end of the route has no bar before it
outside of all parentheses, stops at a boundary or in front of a line end that comes last. -/
theorem stop_of_matchStart {options : Options} {pattern : Text} {compiled : CompiledPath}
    (compiles : compilePattern options pattern = .ok compiled) :
    ∃ tokens, tokenize options.converters pattern = .ok tokens ∧
      (Grouped options tokens → Unbranched options tokens) ∧
      ∀ text found, compiled.program.matchStart text = some found → found.start = 0 ∧
        (Unbranched options tokens →
          IsBoundary options pattern text found.stop ∨ text.drop found.stop = ['\n']) := by
  obtain ⟨tokens, read, -, -, compilation⟩ := compilePattern_ok compiles
  refine ⟨tokens, read, Grouped.unbranched, fun text found matching => ?_⟩
  obtain ⟨ended, matched, rfl⟩ := Option.map_eq_some_iff.1 matching
  refine ⟨rfl, fun ⟨reader, reaches, single⟩ => ?_⟩
  obtain ⟨flags, expr, -⟩ := compiled_of_front compilation
    (reads_final options (endsInSlash tokens)) (Nat.le_add_right ..) reaches
  rw [single] at expr
  have lists := Expr.lists_sequence (lists_finalParts options (endsInSlash tokens)) .undecided
  have tail := lists.precedes (Expr.below_matcher (Expr.widens_refl _ _) text _ _) lists
    fun _ some => some
  have whole := Expr.precedes_append reader.frame.branch tail
  have start : Matcher.Inside text (compiled.program.stateAt [] text) := ⟨rfl, rfl⟩
  have meets := whole _ _ (.refl start.1 start.2)
  rw [expr, flags] at matched
  obtain ⟨inside, spot, member⟩ := meets.of_ended? matched
  exact (closesAt_of_mem_finalEnds member).isBoundary read inside.1

/-- The match of two segments stops in front of the line end after them. -/
theorem stop_of_matchStart_pair : ∃ compiled found,
    compilePattern exactOptions pairPattern = .ok compiled ∧
      compiled.program.matchStart "/x/y\n".toList = some found ∧ found.start = 0 ∧ found.stop = 4 ∧
      (IsBoundary exactOptions pairPattern "/x/y\n".toList found.stop ∨
        "/x/y\n".toList.drop found.stop = ['\n']) := by
  have evaluated : ((compilePattern exactOptions pairPattern).toOption.bind fun compiled =>
      compiled.program.matchStart "/x/y\n".toList).map (·.stop) = some 4 := by decide +kernel
  obtain ⟨compiled, compiles⟩ : ∃ compiled,
      compilePattern exactOptions pairPattern = .ok compiled := ⟨_, rfl⟩
  rw [compiles] at evaluated
  obtain ⟨found, matching, stop⟩ := Option.map_eq_some_iff.1 evaluated
  obtain ⟨tokens, read, unbranched, stops⟩ := stop_of_matchStart compiles
  have known : tokenize exactOptions.converters pairPattern = .ok pairTokens := rfl
  obtain rfl : pairTokens = tokens := Except.ok.inj (known.symm.trans read)
  obtain ⟨start, boundary⟩ := stops _ found matching
  exact ⟨compiled, found, compiles, matching, start, stop, boundary (unbranched grouped_pair)⟩

end RoutePattern
