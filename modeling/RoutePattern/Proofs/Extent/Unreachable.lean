import RoutePattern.Proofs.Extent.Stop
import RoutePattern.Proofs.NormalPath
import RoutePattern.Route

/-!
# Strict patterns that end in a slash

A strict pattern that ends in a slash keeps this slash at the end of its route
(`endsInSlash_of_getLast?`), so a match of it stops behind a slash. Normalizing takes one slash from
the end of a path, and every text that starts with a slash and holds no delimiter is the normalized
form of some URL (`exists_normalize_eq_iff`). So such a pattern may match normalized paths after all:
the root, a path with two slashes at its end, a path with a line end after its last slash and, if
only the start of a path has to match, every path that goes on behind a slash
(`matches_of_isUnreachable`).
-/
namespace RoutePattern

open Regex
open Regex.Scan (facing)

/-! ## The slash at the end of a pattern -/

/-- What is left of a text after some of its characters, the last of which is no slash. -/
def LeftOf (text rest : Text) : Prop := ∃ front last, text = front ++ last :: rest ∧ last ≠ '/'

namespace LeftOf

variable {text middle rest : Text}

/-- One character more in front. -/
theorem cons (left : LeftOf text rest) (c : Char) : LeftOf (c :: text) rest := by
  obtain ⟨front, last, rfl, other⟩ := left
  exact ⟨c :: front, last, rfl, other⟩

/-- More characters in front. -/
theorem append (left : LeftOf text rest) (front : Text) : LeftOf (front ++ text) rest := by
  obtain ⟨before, last, rfl, other⟩ := left
  exact ⟨front ++ before, last, by simp, other⟩

/-- What is left of what is left. -/
theorem trans (first : LeftOf text middle) (second : middle = rest ∨ LeftOf middle rest) :
    LeftOf text rest := by
  rcases second with rfl | later
  · exact first
  · obtain ⟨front, last, rfl, -⟩ := first
    exact (later.cons last).append front

/-- A text that ends in a slash leaves something that ends in one. -/
theorem getLast?_eq (left : LeftOf text rest) (slash : text.getLast? = some '/') :
    rest.getLast? = some '/' := by
  obtain ⟨front, last, rfl, other⟩ := left
  rw [List.getLast?_append_cons, List.getLast?_cons] at slash
  cases ending : rest.getLast? with
  | none =>
    rw [ending] at slash
    exact absurd (Option.some.inj slash) other
  | some c =>
    rw [ending] at slash
    exact slash

end LeftOf

section Heads

variable {text rest : Text} {head : PlaceholderHead}

/-- A head between braces ends with a brace. -/
theorem leftOf_of_readBraced (read : readBraced text = some (head, rest)) : LeftOf text rest := by
  have whole (accepts : Char → Bool) (text : Text) {first later : Text}
      (cut : text.span accepts = (first, later)) : text = first ++ later := by
    rw [List.span_eq_takeWhile_dropWhile] at cut
    obtain ⟨rfl, rfl⟩ := Prod.mk.inj cut
    exact List.takeWhile_append_dropWhile.symm
  unfold readBraced at read
  split at read
  · next name left cut =>
    obtain ⟨-, rfl⟩ := Prod.mk.inj (Option.some.inj read)
    exact ⟨name, _, whole _ _ cut, by decide⟩
  · next name left cut =>
    split at read
    · next converter after cut' =>
      obtain ⟨-, rfl⟩ := Prod.mk.inj (Option.some.inj read)
      rw [whole _ _ cut, whole _ _ cut']
      exact LeftOf.append (LeftOf.cons ⟨converter, _, rfl, by decide⟩ ':') name
    · exact absurd read (by simp)
  · exact absurd read (by simp)

/-- No head ends with a slash; that of a group without a name stays where it is. -/
theorem leftOf_of_readHead (read : readHead text = some (head, rest)) :
    head = .group ∧ rest = text ∧ text.head? = some '(' ∨ head ≠ .group ∧ LeftOf text rest := by
  -- A name is not empty, and its last character is no slash; the other heads end with a sign.
  unfold readHead at read
  split at read
  · next left =>
    split at read
    · exact absurd read (by simp)
    · next name after given cut =>
      obtain ⟨rfl, rfl⟩ := Prod.mk.inj (Option.some.inj read)
      rw [List.span_eq_takeWhile_dropWhile] at cut
      obtain ⟨rfl, rfl⟩ := Prod.mk.inj cut
      rcases List.eq_nil_or_concat (left.takeWhile isNameChar) with none | ⟨front, last, named⟩
      · exact absurd none given
      · have letter : isNameChar last = true :=
          List.mem_takeWhile_imp (l := left) (by simp [named])
        refine .inr ⟨by simp, LeftOf.cons ⟨front, last, ?_, ?_⟩ ':'⟩
        · conv_lhs => rw [← List.takeWhile_append_dropWhile (p := isNameChar) (l := left), named]
          simp
        · rintro rfl
          exact absurd letter (by decide)
  · next left =>
    refine .inr ⟨?_, (leftOf_of_readBraced read).cons _⟩
    unfold readBraced at read
    rintro rfl
    split at read
    · simp at read
    · split at read <;> simp at read
    · simp at read
  · obtain ⟨rfl, rfl⟩ := Prod.mk.inj (Option.some.inj read)
    exact .inl ⟨rfl, rfl, rfl⟩
  · obtain ⟨rfl, rfl⟩ := Prod.mk.inj (Option.some.inj read)
    exact .inr ⟨by simp, [], _, rfl, by decide⟩
  · exact absurd read (by simp)

/-- A group between parentheses ends with one. -/
theorem leftOf_of_readGroup {pattern body : Text} {position : Nat} (opens : text.head? = some '(')
    (read : readGroup pattern position text = .ok (body, rest)) : LeftOf text rest := by
  obtain ⟨inner, rfl⟩ := List.head?_eq_some_iff.1 opens
  unfold readGroup at read
  split at read
  · exact absurd read (by simp)
  · exact absurd read (by simp)
  · next found =>
    obtain ⟨rfl, rfl⟩ := Prod.mk.inj (Except.ok.inj read)
    have whole := eq_of_closeGroup found
    rw [List.drop_one, List.tail_cons] at whole
    exact LeftOf.cons ⟨_, _, whole, by decide⟩ '('

/-- A modifier is no slash. -/
theorem leftOf_readModifier (text : Text) :
    text = (readModifier text).2.2 ∨ LeftOf text (readModifier text).2.2 := by
  unfold readModifier
  split
  · exact .inr ⟨[], _, rfl, by decide⟩
  · exact .inr ⟨[], _, rfl, by decide⟩
  · exact .inr ⟨[], _, rfl, by decide⟩
  · exact .inl rfl

/-- What is read of a placeholder after its head ends with no slash. -/
theorem leftOf_of_readPlaceholder {converters : Converters} {pattern : Text} {lead : Option Char}
    {position : Nat} {placeholder : Placeholder}
    (read : readPlaceholder converters pattern lead head position text = .ok (placeholder, rest)) :
    (head = .group → text.head? = some '(' → LeftOf text rest) ∧
      (head ≠ .group → text = rest ∨ LeftOf text rest) := by
  cases head with
  | asterisk =>
    obtain ⟨-, rfl⟩ := Prod.mk.inj (Except.ok.inj read)
    exact ⟨by simp, fun _ => .inl rfl⟩
  | group =>
    obtain ⟨⟨body, after⟩, grouped, made⟩ := exists_of_bind read
    obtain ⟨-, rfl⟩ := Prod.mk.inj (Except.ok.inj made)
    refine ⟨fun _ opens => ?_, fun other => absurd rfl other⟩
    exact (leftOf_of_readGroup opens grouped).trans (leftOf_readModifier after)
  | named name =>
    refine ⟨by simp, fun _ => ?_⟩
    simp only [readPlaceholder] at read
    split at read
    · next opens =>
      obtain ⟨⟨regex, after⟩, grouped, made⟩ := exists_of_bind read
      obtain ⟨-, rfl⟩ := Prod.mk.inj (Except.ok.inj made)
      cases group : readGroup pattern position text with
      | error failure =>
        rw [group] at grouped
        exact absurd grouped (by simp [Except.map])
      | ok found =>
        rw [group] at grouped
        obtain ⟨-, rfl⟩ := Prod.mk.inj (Except.ok.inj grouped)
        exact .inr ((leftOf_of_readGroup (beq_iff_eq.1 opens) group).trans (leftOf_readModifier _))
    · obtain ⟨⟨regex, after⟩, plain, made⟩ := exists_of_bind read
      obtain ⟨-, rfl⟩ := Prod.mk.inj (Except.ok.inj made)
      obtain ⟨-, rfl⟩ := Prod.mk.inj (Except.ok.inj plain)
      exact leftOf_readModifier text
  | braced inner converter =>
    simp only [readPlaceholder] at read
    split at read
    · exact absurd read (by simp)
    · obtain ⟨regex, -, made⟩ := exists_of_bind read
      obtain ⟨-, rfl⟩ := Prod.mk.inj (Except.ok.inj made)
      exact ⟨by simp, fun _ => leftOf_readModifier text⟩

/-- A placeholder does not end with a slash. -/
theorem leftOf_placeholder {converters : Converters} {pattern body : Text} {lead : Option Char}
    {position : Nat} {placeholder : Placeholder} (led : readLedHead text = some (lead, head, body))
    (read : readPlaceholder converters pattern lead head position body = .ok (placeholder, rest)) :
    LeftOf text rest := by
  have later := leftOf_of_readPlaceholder read
  have headed {text : Text} (found : readHead text = some (head, body)) : LeftOf text rest := by
    rcases leftOf_of_readHead found with ⟨group, rfl, opens⟩ | ⟨other, left⟩
    · exact later.1 group opens
    · exact left.trans (later.2 other)
  unfold readLedHead at led
  split at led
  · exact absurd led (by simp)
  · next c inner =>
    split at led
    · obtain ⟨⟨other, after⟩, found, same⟩ := Option.map_eq_some_iff.1 led
      obtain ⟨-, rfl, rfl⟩ : some c = lead ∧ other = head ∧ after = body := by simpa using same
      exact (headed found).cons c
    · obtain ⟨⟨other, after⟩, found, same⟩ := Option.map_eq_some_iff.1 led
      obtain ⟨-, rfl, rfl⟩ : none = lead ∧ other = head ∧ after = body := by simpa using same
      exact headed found

end Heads

/-- If a text ends in a slash, or if nothing is left to read and the literal text before it does, then
so does the source of the tokens that are read from it. -/
theorem getLast?_flatMap_of_readTokens {converters : Converters} {pattern text literal : Text}
    {skip position : Nat} {tokens : List PatternToken}
    (read : readTokens converters pattern text skip position literal = .ok tokens)
    (slash : ((text.drop skip).getLast?.or literal.head?) = some '/') :
    (tokens.flatMap PatternToken.source).getLast? = some '/' := by
  -- The hypothesis looks at the literal text only once the text is read, so it passes over a
  -- character that goes from one to the other.
  have kept {c : Char} {rest before literal : Text}
      (whole : ((c :: rest).getLast?.or before.head?) = some '/') :
      (rest.getLast?.or (c :: literal).head?) = some '/' := by
    rw [List.getLast?_cons, Option.some_or] at whole
    cases ending : rest.getLast? with
    | none => simpa [ending] using whole
    | some d => simpa [ending] using whole
  fun_induction readTokens converters pattern text skip position literal generalizing tokens with
  | case1 skip position literal =>
    obtain rfl := Except.ok.inj read
    rw [getLast?_literalBefore, List.getLast?_reverse]
    rw [List.drop_nil] at slash
    exact slash
  | case2 head rest skip position literal ih => exact ih read slash
  | case3 position literal escaped tail lineEnd ih => exact ih read (kept slash)
  | case4 position literal escaped tail other ih =>
    refine ih read ?_
    rw [List.drop_zero, List.getLast?_cons_cons] at slash
    rw [List.drop_succ_cons, List.drop_zero]
    exact kept slash
  | case5 c rest position literal headless stray alone =>
    rw [headless] at read
    exact absurd (read.symm.trans (if_pos stray)) (by simp)
  | case6 c rest position literal headless plain alone ih =>
    rw [headless] at read
    exact ih ((if_neg plain).symm.trans read) (kept slash)
  -- A placeholder ends with no slash, so the slash is further behind.
  | case7 c rest position literal lead head body led alone ih =>
    rw [led] at read
    obtain ⟨⟨placeholder, after⟩, own, later⟩ := exists_of_bind read
    obtain ⟨found, others, made⟩ := exists_of_bind later
    obtain rfl := Except.ok.inj made
    rw [List.drop_zero, List.getLast?_cons, Option.some_or, ← List.getLast?_cons] at slash
    have left := leftOf_placeholder led own
    have ending := left.getLast?_eq slash
    have cut : rest.drop (rest.length - after.length) = after := by
      obtain ⟨front, last, whole, -⟩ := left
      cases front with
      | nil =>
        obtain ⟨-, rfl⟩ := List.cons.inj whole
        simp
      | cons d front =>
        have same : rest = (front ++ [last]) ++ after := by simpa using (List.cons.inj whole).2
        have shorter : rest.length - after.length = (front ++ [last]).length := by
          rw [same, List.length_append, Nat.add_sub_cancel]
        rw [shorter, same, List.drop_left]
    have final := ih after others (by rw [cut, ending, Option.some_or])
    rw [getLast?_literalBefore, List.flatMap_cons, List.getLast?_append, final]
    rfl

/-- A pattern that ends in a slash has a route that does. -/
theorem endsInSlash_of_getLast? {own : Converters} {pattern : Text} {tokens : List PatternToken}
    (read : tokenize own pattern = .ok tokens) (slash : pattern.getLast? = some '/') :
    endsInSlash tokens = true := by
  have found := getLast?_flatMap_of_readTokens read (by
    rw [List.drop_zero, slash, Option.some_or])
  rw [endsInSlash, found, beq_self_eq_true]

/-! ## Normalized paths -/

/-- The normalized forms of URLs are the texts that start with a slash and hold no delimiter, and the
empty text. -/
theorem exists_normalize_eq_iff {text : Text} : (∃ url, normalize url = text) ↔
    text = [] ∨ text.head? = some '/' ∧ ∀ c ∈ text, Parts.inPath c = true := by
  constructor
  · rintro ⟨url, rfl⟩
    by_cases empty : url = []
    · exact .inl (by rw [empty]; rfl)
    · rw [normalize, if_neg (by simpa using empty)]
      refine .inr ⟨head?_normalizePath _, fun c found => ?_⟩
      rcases mem_normalizePath found with here | rfl
      · exact inPath_of_mem_path c here
      · decide
  · rintro (rfl | ⟨first, inside⟩)
    · exact ⟨[], rfl⟩
    · obtain ⟨rest, rfl⟩ := List.head?_eq_some_iff.1 first
      refine ⟨'/' :: '/' :: ('/' :: rest ++ ['/']), ?_⟩
      -- The slashes in front are those of an empty authority, and the one behind is taken away.
      have all : ∀ c ∈ '/' :: rest ++ ['/'], Parts.inPath c = true := by
        intro c found
        rcases List.mem_append.1 found with here | last
        · exact inside c here
        · rw [List.mem_singleton.1 last]
          decide
      have path : (Parts.read ('/' :: '/' :: ('/' :: rest ++ ['/']))).path =
          '/' :: rest ++ ['/'] := by
        rw [path_read_double, List.cons_append, List.dropWhile_cons_of_neg (by decide),
          ← List.cons_append, List.takeWhile_eq_self_iff.2 all]
      rw [normalize, if_neg (by simp), path]
      exact normalizePath_concat_slash first

/-- Normalizing leaves a slash at the end only of the root and of a path that ends in two. -/
theorem getLast?_normalizePath {path : Text} (slash : (normalizePath path).getLast? = some '/') :
    path = [] ∨ path = ['/'] ∨ ['/', '/'] <:+ path := by
  have ends : rooted path = ['/'] ∨ ['/', '/'] <:+ rooted path := by
    rw [normalizePath_rooted] at slash
    split at slash
    · next taken =>
      obtain ⟨front, whole⟩ := List.getLast?_eq_some_iff.1 (beq_iff_eq.1 (Bool.and_eq_true_iff.1 taken).2)
      rw [whole, List.dropLast_concat] at slash
      rw [whole]
      exact .inr (two_suffix_concat_iff.2 ⟨slash, rfl⟩)
    · next kept =>
      obtain ⟨rest, root⟩ := rooted_eq_cons path
      rw [slash, beq_self_eq_true, Bool.and_true, root] at kept
      rw [root]
      cases rest with
      | nil => exact .inl rfl
      | cons c rest => exact absurd (by simp) kept
  by_cases first : path.head? = some '/'
  · have root : rooted path = path := if_pos (beq_iff_eq.2 first)
    rw [root] at ends
    exact .inr ends
  · have root : rooted path = '/' :: path := if_neg (by simpa using first)
    rw [root, List.suffix_cons_iff] at ends
    rcases ends with alone | double | longer
    · exact .inl (List.cons.inj alone).2
    · exact .inr (.inl (List.cons.inj double).2.symm)
    · exact .inr (.inr longer)

/-! ## Matches -/

/-- What a route that keeps its slash asks for at its end is a slash and, if the whole text has to
match, the end of the text. -/
theorem slash_of_mem_finalEnds {options : Options} (strict : options.strict = true)
    {spot ended : Spot} (found : ended ∈ chain (finalEnds options true) spot) :
    ended.before.head? = some '/' ∧
      (options.whole = true → ended.after = [] ∨ ended.after = ['\n']) := by
  rw [finalEnds, if_pos (by rw [strict]; rfl)] at found
  obtain ⟨middle, first, later⟩ := List.mem_flatMap.1 found
  obtain ⟨rest, -, rfl⟩ := mem_charEnds_slash first
  cases whole : options.whole with
  | false =>
    rw [whole] at later
    obtain rfl := List.mem_singleton.1 later
    exact ⟨rfl, fun wrong => absurd wrong Bool.false_ne_true⟩
  | true =>
    rw [whole] at later
    have last : ended ∈ chain [lineEndEnds] (spot.advance ['/'] rest) := later
    rw [chain_singleton] at last
    obtain ⟨rfl, ending⟩ := mem_lineEndEnds last
    exact ⟨rfl, fun _ => ending⟩

/-- Where no bar stands before the end of a route outside of all parentheses, a match stops where this
end does. -/
theorem exists_mem_finalEnds {options : Options} {tokens : List PatternToken}
    {program : Program} {text : Text} {found : Match}
    (compilation : Program.compile (patternSource options tokens) options.flags = .ok program)
    (unbranched : Unbranched options tokens) (matching : program.matchStart text = some found) :
    ∃ ended spot, ended ∈ chain (finalEnds options (endsInSlash tokens)) spot ∧
      ended.text = text ∧ ended.position = found.stop := by
  obtain ⟨reader, reaches, single⟩ := unbranched
  obtain ⟨ended, matched, rfl⟩ := Option.map_eq_some_iff.1 matching
  obtain ⟨flags, expr, -⟩ := compiled_of_front compilation
    (reads_final options (endsInSlash tokens)) (Nat.le_add_right ..) reaches
  have lists := Expr.lists_sequence (lists_finalParts options (endsInSlash tokens)) .undecided
  have tail := lists.precedes (Expr.below_matcher (Expr.widens_refl _ _) text _ _) lists
    fun _ some => some
  have whole := Expr.precedes_append reader.frame.branch tail
  rw [expr, single, flags] at matched
  obtain ⟨inside, spot, member⟩ := (whole _ _ (.refl rfl rfl)).of_ended? matched
  exact ⟨ended.spot, spot, member, inside.1, rfl⟩

/-- A strict pattern that ends in a slash and is more than this slash may still match normalized
paths, though only up to a slash in them. So if the whole path has to match, this is the root, a path
that ends in two slashes, or one with a line end behind its last slash. The pattern matches no
normalized path exactly if it matches neither the empty text nor a text that starts with a slash and
holds no question mark and no number sign. -/
theorem matches_of_isUnreachable {options : Options} {pattern : Text} {compiled : CompiledPath}
    (refused : Route.isUnreachable options pattern = true)
    (compiles : compilePattern options pattern = .ok compiled) :
    ∃ tokens, tokenize options.converters pattern = .ok tokens ∧
      (Grouped options tokens → Unbranched options tokens) ∧
      (Unbranched options tokens → ∀ url found,
        compiled.program.matchStart (normalize url) = some found →
          ((normalize url).take found.stop).getLast? = some '/' ∧
            (options.whole = true → ['/', '\n'] <:+ normalize url ∨ (Parts.read url).path = [] ∨
              (Parts.read url).path = ['/'] ∨ ['/', '/'] <:+ (Parts.read url).path)) ∧
      ((∀ url, compiled.program.matchStart (normalize url) = none) ↔
        ∀ text, text = [] ∨ text.head? = some '/' ∧ (∀ c ∈ text, Parts.inPath c = true) →
          compiled.program.matchStart text = none) := by
  obtain ⟨⟨strict, -⟩, ending⟩ :
      (options.strict = true ∧ 1 < pattern.length) ∧ pattern.getLast? = some '/' := by
    simpa [Route.isUnreachable] using refused
  obtain ⟨tokens, read, -, -, compilation⟩ := compilePattern_ok compiles
  refine ⟨tokens, read, Grouped.unbranched, fun unbranched url found matching => ?_,
    fun missed text normal => ?_, fun missed url => missed _ (exists_normalize_eq_iff.1 ⟨url, rfl⟩)⟩
  · obtain ⟨ended, spot, member, inside, stop⟩ :=
      exists_mem_finalEnds compilation unbranched matching
    rw [endsInSlash_of_getLast? read ending] at member
    obtain ⟨behind, last⟩ := slash_of_mem_finalEnds strict member
    obtain ⟨after, before⟩ := Place.getElem?_position inside
    rw [stop] at after before
    have slash : ((normalize url).take found.stop).getLast? = some '/' := by
      rw [← List.head?_reverse, before, behind]
    refine ⟨slash, fun whole => ?_⟩
    have cut := List.take_append_drop found.stop (normalize url)
    rcases last whole with none | lineEnd
    · rw [after, none, List.append_nil] at cut
      rw [cut] at slash
      have given : url ≠ [] := by
        rintro rfl
        exact absurd slash (by decide)
      rw [normalize, if_neg (by simpa using given)] at slash
      exact .inr (getLast?_normalizePath slash)
    · rw [after, lineEnd] at cut
      obtain ⟨front, whole⟩ := List.getLast?_eq_some_iff.1 slash
      exact .inl ⟨front, by rw [← cut, whole, List.append_assoc]; rfl⟩
  · obtain ⟨url, rfl⟩ := exists_normalize_eq_iff.2 normal
    exact missed url

/-- A strict pattern of a segment and a slash. -/
def slashedPattern : Text := "/a/".toList

/-- A path with two slashes at its end is normalized to a path that a strict pattern of a segment and
a slash matches. -/
theorem matches_of_isUnreachable_slashes : ∃ compiled found,
    Route.isUnreachable exactOptions slashedPattern = true ∧
      compilePattern exactOptions slashedPattern = .ok compiled ∧
      compiled.program.matchStart (normalize "/a//".toList) = some found ∧
      ((normalize "/a//".toList).take found.stop).getLast? = some '/' ∧
      ['/', '/'] <:+ (Parts.read "/a//".toList).path := by
  have evaluated : ((compilePattern exactOptions slashedPattern).toOption.bind fun compiled =>
      compiled.program.matchStart (normalize "/a//".toList)).map (·.stop) = some 3 := by
    decide +kernel
  obtain ⟨compiled, compiles⟩ : ∃ compiled,
      compilePattern exactOptions slashedPattern = .ok compiled := ⟨_, rfl⟩
  rw [compiles] at evaluated
  obtain ⟨found, matching, -⟩ := Option.map_eq_some_iff.1 evaluated
  obtain ⟨tokens, read, unbranched, stops, -⟩ := matches_of_isUnreachable (by decide) compiles
  have known : tokenize exactOptions.converters slashedPattern = .ok [.literal "/a/".toList] := rfl
  obtain rfl := Except.ok.inj (known.symm.trans read)
  have grouped : Grouped exactOptions [.literal "/a/".toList] := by simp [Grouped, groupPlaces]
  obtain ⟨slash, last⟩ := stops (unbranched grouped) _ found matching
  refine ⟨compiled, found, by decide, compiles, matching, slash, ?_⟩
  rcases last rfl with lineEnd | none | root | double
  · exact absurd lineEnd (by decide)
  · exact absurd none (by decide)
  · exact absurd root (by decide)
  · exact double

-- Where only the start of a path has to match, the rest may go on behind the slash; and what stands
-- before the slash may be left out, so that the root is matched.
example :
    ((compilePattern ⟨true, true, false, Table.empty⟩ "/a/".toList).toOption.bind fun compiled =>
      compiled.program.matchStart (normalize "/a/b".toList)).isSome = true ∧
    ((compilePattern exactOptions "/:x?/".toList).toOption.bind fun compiled =>
      compiled.program.matchStart (normalize ['/'])).isSome = true := by decide +kernel

end RoutePattern
