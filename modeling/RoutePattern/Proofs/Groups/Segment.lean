import RoutePattern.Proofs.Groups.Places
import RoutePattern.Proofs.Groups.Alignment
import RoutePattern.Proofs.Letter
import RoutePattern.Proofs.Matching.Upheld
import RoutePattern.Proofs.Reading.Opening

/-!
# Parameters without a regular expression of their own

Such a parameter takes at least one character, and none that is its own lead, which is a slash or a
point, or a slash if it has no lead (`captured_of_compilePattern`). So it stays within one segment
unless its lead is a point: then a slash is a character like any other. What surrounds the parameter
does not matter, nor how often or from where its group is tried.
-/
namespace RoutePattern

open Regex
open Regex.Reader (Reads)
open Regex.Scan (Captures)

/-! ## The standard regular expression -/

/-- At least one character, none of which is the given one, as few as possible. -/
def shortestBut (c : Char) : Expr := .loop 1 none .lazy (.sequence [.notChar c.toNat])

/-- The standard regular expression after a point. -/
theorem reads_pointless : Reads "[^\\.]+?".toList 0 fun _ => [shortestBut '.'] := by
  apply Reads.ofParts
  intro reader position rest unsigned
  have cut : Token.ofText ("[^\\.]+?".toList ++ rest) = [.plain '[', .plain '^', .escaped '.',
      .plain ']', .plain '+', .plain '?'] ++ Token.ofText rest := by
    simp [Token.ofText]
  have escape (position : Nat) (cursor : Cursor) :
      readSetEscape '.' position cursor = .ok (.char '.'.toNat, cursor) := rfl
  have set : reader.readToken (.plain '[') position
        ⟨[.plain '^', .escaped '.', .plain ']'] ++ ([.plain '+', .plain '?'] ++ Token.ofText rest),
          position + 1⟩ =
      .ok (reader.push (.notChar '.'.toNat),
        ⟨[.plain '+', .plain '?'] ++ Token.ofText rest, position + 5⟩) := by
    simp [Reader.readToken, Reader.readChar, Unicode.isAsciiBlank, readSet, readSetItems,
      readSetItem, escape, Cursor.startsWith, Cursor.next, Token.width, bind, Except.bind, pure,
      Except.pure, List.eraseDups_cons]
  have more : (reader.push (.notChar '.'.toNat)).readToken (.plain '+') (position + 5)
        ⟨[.plain '?'] ++ Token.ofText rest, position + 6⟩ =
      .ok (reader.append [shortestBut '.'], ⟨Token.ofText rest, position + 7⟩) := by
    simp [Reader.readToken, Reader.readChar, Reader.push, Unicode.isAsciiBlank,
      Reader.repeatLatest, Cursor.startsWith, Cursor.next, Token.width, Reader.append, Item.parts,
      shortestBut]
  rw [Scan.facing, cut]
  exact (Scan.reaches_along (by decide) set rfl).trans (Scan.reaches_along (by decide) more rfl)

/-- A lead that a placeholder can have. -/
def IsLead (lead : Option Char) : Prop := lead = none ∨ lead = some '/' ∨ lead = some '.'

/-- The standard regular expression after a lead. -/
theorem reads_standardRegex {lead : Option Char} (known : IsLead lead) :
    Reads (standardRegex lead) 0 fun _ => [shortestBut (lead.getD '/')] := by
  rcases known with rfl | rfl | rfl
  · exact Reads.segment
  · exact Reads.segment
  · exact reads_pointless

/-- The lead of a head is a slash or a point if there is one. -/
theorem isLead_of_readLedHead {text rest : Text} {lead : Option Char} {head : PlaceholderHead}
    (led : readLedHead text = some (lead, head, rest)) : IsLead lead := by
  unfold readLedHead at led
  split at led
  · exact absurd led (by simp)
  · next c text =>
    split at led
    · next sign =>
      obtain ⟨⟨found, after⟩, -, same⟩ := Option.map_eq_some_iff.1 led
      obtain rfl := (Prod.mk.inj same).1
      rcases Bool.or_eq_true_iff.1 sign with slash | point
      · exact .inr (.inl (by rw [beq_iff_eq.1 slash]))
      · exact .inr (.inr (by rw [beq_iff_eq.1 point]))
    · obtain ⟨⟨found, after⟩, -, same⟩ := Option.map_eq_some_iff.1 led
      exact .inl (Prod.mk.inj same).1.symm

/-- A placeholder keeps the lead of its head. -/
theorem lead_of_readPlaceholder {converters : Converters} {pattern text rest : Text}
    {lead : Option Char} {head : PlaceholderHead} {position : Nat} {placeholder : Placeholder}
    (read : readPlaceholder converters pattern lead head position text = .ok (placeholder, rest)) :
    placeholder.lead = lead := by
  unfold readPlaceholder at read
  split at read
  · obtain ⟨rfl, -⟩ := Prod.mk.inj (Except.ok.inj read)
    rfl
  · obtain ⟨group, -, made⟩ := exists_of_bind read
    obtain ⟨rfl, -⟩ := Prod.mk.inj (Except.ok.inj made)
    rfl
  · simp only at read
    split at read
    · obtain ⟨regex, -, made⟩ := exists_of_bind read
      obtain ⟨rfl, -⟩ := Prod.mk.inj (Except.ok.inj made)
      rfl
    · obtain ⟨regex, -, made⟩ := exists_of_bind read
      obtain ⟨rfl, -⟩ := Prod.mk.inj (Except.ok.inj made)
      rfl
  · simp only at read
    split at read
    · exact absurd read (by simp)
    · obtain ⟨regex, -, made⟩ := exists_of_bind read
      obtain ⟨rfl, -⟩ := Prod.mk.inj (Except.ok.inj made)
      rfl

/-- The placeholders after a literal text. -/
theorem placeholders_literalBefore (literal : Text) (tokens : List PatternToken) :
    placeholders (literalBefore literal tokens) = placeholders tokens := by
  unfold literalBefore
  split <;> rfl

/-- What holds of every placeholder that can be read holds of the placeholders of a pattern. -/
theorem forall_of_readTokens {converters : Converters} {pattern : Text} {holds : Placeholder → Prop}
    (each : ∀ {text body rest lead head position placeholder},
      readLedHead text = some (lead, head, body) →
        readPlaceholder converters pattern lead head position body = .ok (placeholder, rest) →
          holds placeholder)
    {text literal : Text} {skip position : Nat} {tokens : List PatternToken}
    (read : readTokens converters pattern text skip position literal = .ok tokens) :
    ∀ placeholder ∈ placeholders tokens, holds placeholder := by
  fun_induction readTokens converters pattern text skip position literal generalizing tokens with
  | case1 skip position literal =>
    obtain rfl := Except.ok.inj read
    rw [placeholders_literalBefore]
    exact List.forall_mem_nil _
  | case2 head rest skip position literal ih => exact ih read
  | case3 position literal escaped tail lineEnd ih => exact ih read
  | case4 position literal escaped tail other ih => exact ih read
  | case5 c rest position literal headless stray alone =>
    rw [headless] at read
    exact absurd (read.symm.trans (if_pos stray)) (by simp)
  | case6 c rest position literal headless plain alone ih =>
    rw [headless] at read
    exact ih ((if_neg plain).symm.trans read)
  | case7 c rest position literal lead head body led alone ih =>
    rw [led] at read
    obtain ⟨⟨placeholder, after⟩, own, later⟩ := exists_of_bind read
    obtain ⟨found, others, made⟩ := exists_of_bind later
    obtain rfl := Except.ok.inj made
    rw [placeholders_literalBefore]
    exact List.forall_mem_cons.2 ⟨each led own, ih after others⟩

/-- Every placeholder has a slash, a point or nothing as its lead. -/
theorem isLead_of_readTokens {converters : Converters} {pattern text literal : Text}
    {skip position : Nat} {tokens : List PatternToken}
    (read : readTokens converters pattern text skip position literal = .ok tokens) :
    ∀ placeholder ∈ placeholders tokens, IsLead placeholder.lead := by
  refine forall_of_readTokens (fun led own => ?_) read
  rw [lead_of_readPlaceholder own]
  exact isLead_of_readLedHead led

/-! ## The place of a group in its source -/

/-- The parentheses of a placeholder stand in the source of its tokens around what it captures. -/
theorem exists_cut_of_groupPlaces {tokens : List PatternToken} {position index : Nat}
    {placeholder : Placeholder} {places : Nat × Nat}
    (found : (placeholders tokens)[index]? = some placeholder)
    (place : (groupPlaces position tokens)[index]? = some places) :
    ∃ before after, tokens.flatMap PatternToken.source =
        before ++ '(' :: (placeholder.captureSource ++ ')' :: after) ∧
      places = (position + before.length,
        position + before.length + 1 + placeholder.captureSource.length) := by
  induction tokens generalizing position index with
  | nil => exact absurd found (by simp [placeholders])
  | cons token tokens ih =>
    have further {text : Text} {index : Nat}
        (found : (placeholders tokens)[index]? = some placeholder)
        (place : (groupPlaces (position + text.length) tokens)[index]? = some places) :
        ∃ before after, text ++ tokens.flatMap PatternToken.source =
            before ++ '(' :: (placeholder.captureSource ++ ')' :: after) ∧
          places = (position + before.length,
            position + before.length + 1 + placeholder.captureSource.length) := by
      obtain ⟨before, after, cut, rfl⟩ := ih found place
      exact ⟨text ++ before, after, by rw [cut, List.append_assoc], by
        rw [List.length_append, ← Nat.add_assoc]⟩
    cases token with
    | literal text => exact further found place
    | placeholder own =>
      cases index with
      | succ index => exact further found place
      | zero =>
        obtain rfl := Option.some.inj found
        obtain rfl := Option.some.inj place
        refine ⟨own.front, own.back ++ tokens.flatMap PatternToken.source, ?_, rfl⟩
        exact own.source_append _

/-- The parentheses of a placeholder stand in the source of its pattern. -/
theorem exists_drop_patternSource (options : Options) {tokens : List PatternToken} {index : Nat}
    {placeholder : Placeholder} {places : Nat × Nat}
    (found : (placeholders tokens)[index]? = some placeholder)
    (place : (groupPlaces 1 tokens)[index]? = some places) :
    ∃ position rest, 0 < position ∧
      places = (position, position + 1 + placeholder.captureSource.length) ∧
      (patternSource options tokens).drop position =
        '(' :: (placeholder.captureSource ++ ')' :: rest) := by
  obtain ⟨others, same, front⟩ := exists_routeFront tokens
  rw [← same.placeholders] at found
  rw [← same.places] at place
  obtain ⟨before, after, cut, rfl⟩ := exists_cut_of_groupPlaces found place
  refine ⟨_, after ++ finalSource options (endsInSlash tokens), by omega, rfl, ?_⟩
  rw [patternSource, routeSource_eq, ← front, cut, Nat.add_comm 1, List.drop_succ_cons,
    List.append_assoc, List.drop_left]
  simp

/-! ## Matches -/

/-- A placeholder has no regular expression of its own, and takes no more than one segment. -/
structure Placeholder.IsStandard (placeholder : Placeholder) : Prop where
  regex : placeholder.regex = standardRegex placeholder.lead
  single : placeholder.repeated = false

/-- A group that takes the shortest text without a character leaves such a text behind, and no other
group touches it. -/
theorem upholds_shortestBut {text : Text} {c : Char} {number : Nat} (positive : 0 < number)
    {expr : Expr} (each : expr.EachGroup fun index body =>
      0 < index ∧ (index = number → body = .sequence [shortestBut c]))
    (flags : Flags) (lead : Lead) :
    (expr.matcher flags lead).Upholds text
      (Fits text (fun taken => taken ≠ [] ∧ c ∉ taken) number) := by
  refine Expr.upholds_matcher (fun index body flags own upholds => ?_) each flags lead
  by_cases same : index = number
  · rw [own.2 same, same]
    refine Matcher.upholds_group_single
      ⟨fun d => !sameCode flags c.toNat d.toNat, hasSiblings flags c.toNat⟩ number
      (fun taken given accepted => ⟨given, fun found => ?_⟩) .lazy
      ((Expr.empty.lead? flags).getD .undecided)
    exact absurd (accepted c found) (by simp)
  · have first := own.1
    exact Matcher.Upholds.group upholds (by omega)

/-- What an expression leaves behind in a group is what a match of the expression captures there. -/
theorem captured_of_upholds {program : Program} {before after : Text} {fits : Text → Prop}
    {number : Nat} {found : Match} {captured : Text}
    (upholds : (program.expr.matcher program.flags .undecided).Upholds (before.reverse ++ after)
      (Fits (before.reverse ++ after) fits number))
    (matching : program.matchFrom before after = some found)
    (taken : found.captures[number - 1]? = some (some captured)) : fits captured := by
  obtain ⟨ended, matched, rfl⟩ := Option.map_eq_some_iff.1 matching
  have outset : Upheld (before.reverse ++ after) (Fits (before.reverse ++ after) fits number)
      (program.stateAt before after) := ⟨⟨rfl, rfl⟩, .unset _ _ _ _⟩
  have meets := Matcher.Carries.first (Upheld.marks ..) upholds outset
  have kept : Fits (before.reverse ++ after) fits number ended.slots := by
    cases attempt : (program.expr.matcher program.flags .undecided).first
        (program.stateAt before after) with
    | failed place =>
      rw [attempt] at matched
      exact absurd matched (by simp [Attempt.ended?])
    | matched state =>
      rw [attempt] at matched
      obtain rfl := Option.some.inj matched
      exact (meets.matched attempt).slots
  simp only [Match.captures, List.map_map, List.getElem?_map, Option.map_eq_some_iff,
    Function.comp_apply] at taken
  obtain ⟨slot, own, ⟨start, stop⟩, span, rfl⟩ := taken
  exact kept slot own start stop span

/-- A parameter without a regular expression of its own that takes no more than one segment captures
at least one character, and none that is its lead, or a slash if it has no lead. So it captures no
slash unless its lead is a point. Its group is the one between its own parentheses, which is the group
of its key if the parentheses of every placeholder are those of a group. -/
theorem captured_of_compilePattern {options : Options} {pattern : Text} {compiled : CompiledPath}
    (compiles : compilePattern options pattern = .ok compiled) :
    ∃ tokens, tokenize options.converters pattern = .ok tokens ∧
      compiled.keys = (placeholders tokens).map (·.key) ∧
      (Grouped options tokens → Numbered options tokens) ∧
      ∀ (index : Nat) (placeholder : Placeholder) (places : Nat × Nat) (number : Nat),
        (placeholders tokens)[index]? = some placeholder → placeholder.IsStandard →
        (groupPlaces 1 tokens)[index]? = some places →
        Captures (patternSource options tokens) options.flags number places →
        ∀ before after found captured, compiled.program.matchFrom before after = some found →
          found.captures[number - 1]? = some (some captured) →
            captured ≠ [] ∧ placeholder.lead.getD '/' ∉ captured ∧
              (placeholder.lead ≠ some '.' → '/' ∉ captured) := by
  obtain ⟨tokens, read, keys, count, compilation⟩ := compilePattern_ok compiles
  refine ⟨tokens, read, keys.trans (keys_eq tokens), fun grouped => ?_, ?_⟩
  · exact (row_of_compilePattern keys count compilation grouped).1
  · intro index placeholder places number own standard place captures before after found captured
      matching taken
    have known : IsLead placeholder.lead :=
      isLead_of_readTokens read placeholder (List.mem_of_getElem? own)
    obtain ⟨position, rest, positive, rfl, cut⟩ := exists_drop_patternSource options own place
    have plain : placeholder.captureSource = standardRegex placeholder.lead := by
      rw [Placeholder.captureSource, standard.single, standard.regex]
      rfl
    -- The place in the source says which group is the placeholder's; the compiled expression is
    -- what the reader ends with, so what holds of its parts holds of the program.
    obtain ⟨final, reaches, done⟩ := exists_final_of_compile compilation
    obtain ⟨numbered, guards⟩ := Captures.guards captures cut positive
      (plain ▸ reads_standardRegex known) (by rw [plain]; simp [standardRegex]) rfl reaches done
    have each := (guards.closed _ (List.mem_cons_self ..)).parts.sequence
    have expr : compiled.program.expr = .sequence final.reader.frame.parts :=
      (compile_of_final compilation reaches done).expr
    rw [← expr] at each
    obtain ⟨given, free⟩ := captured_of_upholds
      (upholds_shortestBut numbered each compiled.program.flags .undecided) matching taken
    refine ⟨given, free, fun other => ?_⟩
    rcases known with none | slash | point
    · rwa [none] at free
    · rwa [slash] at free
    · exact absurd point other

/-- The second of two parameters captures the second of two segments, and no slash. -/
theorem captured_of_compilePattern_pair : ∃ compiled found,
    compilePattern exactOptions pairPattern = .ok compiled ∧
      compiled.program.matchStart "/x/y".toList = some found ∧
      found.captures[1]? = some (some ['y']) ∧ ['y'] ≠ [] ∧ '/' ∉ ['y'] := by
  have evaluated : ((compilePattern exactOptions pairPattern).toOption.bind fun compiled =>
      compiled.program.matchStart "/x/y".toList).map (·.captures[1]?) =
        some (some (some ['y'])) := by decide +kernel
  obtain ⟨compiled, compiles⟩ : ∃ compiled,
      compilePattern exactOptions pairPattern = .ok compiled := ⟨_, rfl⟩
  rw [compiles] at evaluated
  obtain ⟨found, matching, taken⟩ := Option.map_eq_some_iff.1 evaluated
  obtain ⟨tokens, read, -, numbered, captured⟩ := captured_of_compilePattern compiles
  have known : tokenize exactOptions.converters pairPattern = .ok pairTokens := rfl
  obtain rfl : pairTokens = tokens := Except.ok.inj (known.symm.trans read)
  have own : (placeholders pairTokens)[1]? = some (keyedPlaceholder (some '/') ['b']
      (standardRegex (some '/')) standardConverter false false) := rfl
  have place : (groupPlaces 1 pairTokens)[1]? = some (11, 18) := by decide
  obtain ⟨given, -, free⟩ := captured 1 _ (11, 18) 2 own ⟨rfl, rfl⟩ place
    (numbered grouped_pair 1 (11, 18) place) [] "/x/y".toList found ['y'] matching taken
  exact ⟨compiled, found, compiles, matching, taken, given, free (by decide)⟩

/-- After a point a slash is a character like any other. -/
example : ((compilePattern exactOptions "/a.:x".toList).toOption.bind fun compiled =>
    compiled.program.matchStart "/a.b/c".toList).map (·.captures) =
      some [some "b/c".toList] := by decide +kernel

end RoutePattern
