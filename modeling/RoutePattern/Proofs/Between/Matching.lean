import RoutePattern.Proofs.Between.Program
import RoutePattern.Proofs.RoundTrip.Resolved
import RoutePattern.Proofs.Segments.Singles

/-!
# Matching a parameter between literal texts

The literal text before the parameter takes itself, and what comes after the parameter takes all the
rest of a path or nothing. So a match captures the text between the two literal texts if the
parameter goes on first from there (`Between.find_taken`).
-/
namespace RoutePattern

open Regex Regex.Matcher

/-- A literal text takes itself. -/
theorem chain_chars (flags : Flags) {text rest : Text} {spot : Spot}
    (cut : spot.after = text ++ rest) :
    chain (text.map fun c => charEnds flags c.toNat) spot = [spot.advance text rest] := by
  induction text generalizing spot with
  | nil =>
    obtain rfl : spot.after = rest := cut
    rfl
  | cons c text ih =>
    have taken : charEnds flags c.toNat spot = [spot.advance [c] (text ++ rest)] := by
      simp only [charEnds, cut, List.cons_append, sameCode_self, if_true]
    rw [List.map_cons, chain, taken, List.flatMap_singleton, ih rfl, Spot.advance_advance]
    rfl

namespace Between

variable {between : Between} {options : Options} {body : Expr} {bodyEnds : Spot → List Spot}

/-- The ends of what comes after the parameter. -/
def afterEnds (between : Between) (options : Options) : List (Spot → List Spot) :=
  (between.after.map fun c => charEnds options.flags c.toNat) ++ tailEnds options

/-- The spot where the parameter begins in a text. -/
def start (between : Between) (rest : Text) : Spot :=
  ((⟨⟨[], between.front ++ rest⟩, [.unset]⟩ : Spot).advance between.front rest).openGroup 1

/-- The spot from which the parameter goes on. -/
def goOn (between : Between) (options : Options) (spot : Spot) : Option Spot :=
  (chain (between.afterEnds options) (spot.closeGroup 1)).findSome? some

/-- The expression of a pattern has the ends of its parts. -/
theorem lists_expr
    (lists : ((Expr.sequence [body]).matcher options.flags .undecided).Lists bodyEnds) :
    (between.expr options body).Lists options.flags
      (chain ((fun spot => if spot.before.isEmpty then [spot] else []) ::
        ((between.front.map fun c => charEnds options.flags c.toNat) ++
          groupEnds 1 bodyEnds :: between.afterEnds options))) := by
  have opening := Expr.lists_lineStart (show options.flags.multiline = false from rfl)
  have group := Expr.lists_group lists 1
  have back := List.rel_append (Expr.lists_literal between.after) (lists_tailParts options)
  have whole := List.rel_append (Expr.lists_literal between.front) (.cons group back)
  exact Expr.lists_sequence (.cons opening whole)

/-- A pattern matches from its start where the parameter goes on from one of its ends. -/
theorem matchStart_map_groups_front
    (lists : ((Expr.sequence [body]).matcher options.flags .undecided).Lists bodyEnds)
    (source rest : Text) :
    ((between.program options source body).matchStart (between.front ++ rest)).map (·.groups) =
      (((bodyEnds (between.start rest)).findSome? (between.goOn options)).map (·.slots)).map
        fun slots => slots.map Slot.span? := by
  have groups := matchStart_map_groups (between.program options source body)
    (between.lists_expr lists) (between.front ++ rest)
  have front : chain (between.front.map fun c => charEnds options.flags c.toNat)
      ⟨⟨[], between.front ++ rest⟩, [.unset]⟩ =
        [(⟨⟨[], between.front ++ rest⟩, [.unset]⟩ : Spot).advance between.front rest] :=
    chain_chars options.flags rfl
  rw [findSome?_lineStart] at groups
  rw [groups, show List.replicate (between.program options source body).groups Slot.unset =
      [.unset] from rfl, findSome?_chain_append, front, List.findSome?_singleton,
    findSome?_chain_cons, groupEnds, List.findSome?_map]
  rfl

/-- At the text after the parameter, a match is complete. -/
theorem goOn_after {spot : Spot} (cut : spot.after = between.after) :
    (between.goOn options spot).map (·.slots) = some (spot.closeGroup 1).slots := by
  have taken : chain (between.after.map fun c => charEnds options.flags c.toNat)
      (spot.closeGroup 1) = [(spot.closeGroup 1).advance between.after []] :=
    chain_chars options.flags (by rw [List.append_nil]; exact cut)
  have ending : (((spot.closeGroup 1).advance between.after []).after : Text) = slashed [] := rfl
  have accepted : tailAccepts options [] = true := by simp [tailAccepts]
  rw [goOn, afterEnds, findSome?_chain_append, taken, List.findSome?_singleton,
    findSome?_tail ending (by simp), accepted, if_pos rfl]
  rfl

/-- In a rest of another length, without slashes and line ends, there is no match. -/
theorem goOn_eq_none {spot : Spot} (slashless : '/' ∉ spot.after) (oneLine : '\n' ∉ spot.after)
    (other : spot.after.length ≠ between.after.length) : between.goOn options spot = none := by
  rw [goOn, afterEnds, findSome?_chain_append, List.findSome?_eq_none_iff]
  intro ended found
  obtain ⟨taken, rest, size, cut, rfl⟩ := exists_taken_of_mem_literal found
  have cut : spot.after = taken ++ rest := cut
  rw [cut] at slashless oneLine other
  cases rest with
  | nil => exact absurd size (by simpa using other)
  | cons c rest =>
    refine bounded_tail _ c rfl ?_ ?_
    · rintro rfl
      exact slashless (by simp)
    · rintro rfl
      exact oneLine (by simp)

variable (between)

/-- Where the parameter goes on first in front of the text after it, a match captures what it has
taken. -/
theorem find_taken
    (lists : ((Expr.sequence [body]).matcher options.flags .undecided).Lists bodyEnds)
    (source value : Text)
    (first : (bodyEnds (between.start (value ++ between.after))).findSome? (between.goOn options) =
      between.goOn options ((between.start (value ++ between.after)).advance value between.after)) :
    ∃ found, (between.program options source body).find
        (between.front ++ (value ++ between.after)) = some found ∧
      found.captures = [some value] := by
  have groups := between.matchStart_map_groups_front lists source (value ++ between.after)
  rw [first, goOn_after rfl, Option.map_some] at groups
  obtain ⟨found, matched, marks⟩ := Option.map_eq_some_iff.1 groups
  refine ⟨found, (Program.find_eq_matchStart (between.lists_expr lists) _).trans matched, ?_⟩
  have slots : ((((between.start (value ++ between.after)).advance value
      between.after).closeGroup 1).slots) =
        [⟨some between.front.length, some (between.front.length + value.length)⟩] := by
    simp [start, Spot.closeGroup, Spot.openGroup, Spot.modify, Spot.advance, Place.position,
      Slot.unset, Nat.add_comm]
  rw [slots] at marks
  rw [captures_eq marks, text_of_matchStart matched]
  simp [Slot.textIn, Slot.span?]

/-- Where the parameter goes on from none of its ends, there is no match. -/
theorem find_eq_none
    (lists : ((Expr.sequence [body]).matcher options.flags .undecided).Lists bodyEnds)
    (source rest : Text)
    (nowhere : (bodyEnds (between.start rest)).findSome? (between.goOn options) = none) :
    (between.program options source body).find (between.front ++ rest) = none := by
  have groups := between.matchStart_map_groups_front lists source rest
  rw [nowhere, Option.map_none, Option.map_none, Option.map_eq_none_iff] at groups
  rw [Program.find_eq_matchStart (between.lists_expr lists), groups]

variable {between}

/-- Slashes are taken only from a text that starts with them. -/
theorem prefix_of_mem_chain_slashes {slashes : Text} (each : ∀ c ∈ slashes, c = '/')
    {spot ended : Spot}
    (found : ended ∈ chain (slashes.map fun c => charEnds options.flags c.toNat) spot) :
    slashes <+: spot.after := by
  induction slashes generalizing spot with
  | nil => exact List.nil_prefix
  | cons c slashes ih =>
    obtain ⟨rfl, others⟩ := List.forall_mem_cons.1 each
    obtain ⟨rest, cut, later⟩ := mem_chain_slash found
    rw [cut, List.prefix_cons_inj]
    exact ih others later

/-- A pattern whose front is made of slashes matches only texts that start with them. -/
theorem find_eq_none_of_slashes
    (lists : ((Expr.sequence [body]).matcher options.flags .undecided).Lists bodyEnds)
    (each : ∀ c ∈ between.front, c = '/') (source : Text) {text : Text}
    (other : ¬ between.front <+: text) :
    (between.program options source body).find text = none := by
  have groups := matchStart_map_groups (between.program options source body)
    (between.lists_expr lists) text
  have nowhere : chain (between.front.map fun c => charEnds options.flags c.toNat) ⟨⟨[], text⟩,
      List.replicate (between.program options source body).groups .unset⟩ = [] :=
    List.eq_nil_iff_forall_not_mem.2 fun _ found => other (prefix_of_mem_chain_slashes each found)
  rw [findSome?_lineStart, findSome?_chain_append, nowhere, List.findSome?_nil, Option.map_none,
    Option.map_none, Option.map_eq_none_iff] at groups
  rw [Program.find_eq_matchStart (between.lists_expr lists), groups]

/-! ## The shortest run of other characters -/

/-- The ends of the shortest run of characters that are not the given one. -/
def shortestEnds (flags : Flags) (c : Char) (spot : Spot) : List Spot :=
  ((Place.run (fun d => !sameCode flags c.toNat d.toNat) none spot.before spot.after).drop 1).map
    spot.goTo

/-- The standard regular expression has these ends. -/
theorem lists_shortestBut (flags : Flags) (c : Char) :
    ((Expr.sequence [shortestBut c]).matcher flags .undecided).Lists (shortestEnds flags c) := by
  have lists : (shortestBut c).Lists flags (shortestEnds flags c) := fun lead =>
    lists_chars_lazy ⟨fun d => !sameCode flags c.toNat d.toNat, hasSiblings flags c.toNat⟩ 1 lead
  have alone := Expr.lists_sequence (.cons lists .nil) .undecided
  rwa [chain_singleton] at alone

/-- A run of other characters ends after one of them or more. -/
theorem mem_shortestEnds_iff {flags : Flags} {c : Char} {spot ended : Spot} :
    ended ∈ shortestEnds flags c spot ↔ ∃ taken rest, taken ≠ [] ∧ spot.after = taken ++ rest ∧
      (∀ d ∈ taken, sameCode flags c.toNat d.toNat = false) ∧ ended = spot.advance taken rest := by
  simp only [shortestEnds, List.mem_map, Place.mem_drop_run_iff, Bool.not_eq_true']
  constructor
  · rintro ⟨place, ⟨taken, rest, given, cut, other, rfl⟩, rfl⟩
    exact ⟨taken, rest, given, cut, other, rfl⟩
  · rintro ⟨taken, rest, given, cut, other, rfl⟩
    exact ⟨_, ⟨taken, rest, given, cut, other, rfl⟩, rfl⟩

/-- Of the ends of a parameter in a segment, only the one in front of the text after it leads
anywhere. -/
theorem goOn_eq_none_of_mem {c : Char} {value : Text} (slashless : '/' ∉ value ++ between.after)
    (oneLine : '\n' ∉ value ++ between.after) {ended : Spot}
    (found : ended ∈ shortestEnds options.flags c (between.start (value ++ between.after)))
    (other : ended ≠ (between.start (value ++ between.after)).advance value between.after) :
    between.goOn options ended = none := by
  obtain ⟨taken, rest, -, cut, -, rfl⟩ := mem_shortestEnds_iff.1 found
  have cut : value ++ between.after = taken ++ rest := cut
  rw [cut] at slashless oneLine
  refine goOn_eq_none (fun inside => slashless (List.mem_append_right _ inside))
    (fun inside => oneLine (List.mem_append_right _ inside)) fun size => other ?_
  obtain ⟨rfl, rfl⟩ := List.append_inj' cut size.symm
  rfl

variable (between options)

/-- A value in a segment is captured if it does not hold the character that ends the parameter. -/
theorem find_shortest {c : Char} {value : Text} (given : value ≠ [])
    (slashless : '/' ∉ value ++ between.after) (oneLine : '\n' ∉ value ++ between.after)
    (free : ∀ d ∈ value, sameCode options.flags c.toNat d.toNat = false) (source : Text) :
    ∃ found, (between.program options source (shortestBut c)).find
        (between.front ++ (value ++ between.after)) = some found ∧
      found.captures = [some value] := by
  have member : (between.start (value ++ between.after)).advance value between.after ∈
      shortestEnds options.flags c (between.start (value ++ between.after)) :=
    mem_shortestEnds_iff.2 ⟨value, between.after, given, rfl, free, rfl⟩
  have first : (shortestEnds options.flags c (between.start (value ++ between.after))).findSome?
      (between.goOn options) = between.goOn options
        ((between.start (value ++ between.after)).advance value between.after) :=
    findSome?_eq_of_mem member fun _ found other =>
      goOn_eq_none_of_mem slashless oneLine found other
  exact between.find_taken (lists_shortestBut options.flags c) source value first

/-- A value in a segment is not matched if it holds the character that ends the parameter. -/
theorem find_shortest_eq_none {c d : Char} {value : Text}
    (slashless : '/' ∉ value ++ between.after) (oneLine : '\n' ∉ value ++ between.after)
    (inside : d ∈ value) (same : sameCode options.flags c.toNat d.toNat = true) (source : Text) :
    (between.program options source (shortestBut c)).find
      (between.front ++ (value ++ between.after)) = none := by
  apply between.find_eq_none (lists_shortestBut options.flags c)
  rw [List.findSome?_eq_none_iff]
  intro ended found
  refine goOn_eq_none_of_mem slashless oneLine found ?_
  rintro rfl
  obtain ⟨taken, rest, -, cut, free, here⟩ := mem_shortestEnds_iff.1 found
  have cut : value ++ between.after = taken ++ rest := cut
  have size : rest.length = between.after.length :=
    congrArg (fun spot : Spot => spot.after.length) here.symm
  obtain ⟨rfl, -⟩ := List.append_inj' cut size.symm
  rw [free d inside] at same
  exact Bool.false_ne_true same

end Between

/-!
## Routes of a parameter between literal texts

Such a route writes the encoded value between its two texts (`Between.resolve_eq`), and the
parameter of a path is what the group captures, decoded (`Between.Compiles.params_of_find`).
Letters, digits and a few signs may stand in the texts (`of_isAlphanum_or_sign`).
-/

open Regex Regex.Reader

/-- The characters of literal text mean nothing in a pattern or in a path, besides slashes. -/
theorem of_isAlphanum_or_sign {c : Char} (known : c.isAlphanum = true ∨ c ∈ ['/', '.', '-']) :
    c ∉ ['\\', ')'] ∧ c ∉ headSigns ∧ Parts.inPath c = true ∧ c ≠ '\n' := by
  have ascii : c.toNat < 128 := by
    rcases known with alphanum | sign
    · exact Text.toNat_lt_of_isAlphanum alphanum
    · fin_cases sign <;> decide
  exact Text.ascii_forall (fun c => c.isAlphanum = true ∨ c ∈ ['/', '.', '-'] →
    c ∉ ['\\', ')'] ∧ c ∉ headSigns ∧ Parts.inPath c = true ∧ c ≠ '\n') (by decide) ascii known

namespace Between

/-- A route is compiled into the program of a parameter between literal texts, and its key. -/
def Compiles (between : Between) (route : Route) (source : Text) (body : Expr) : Prop :=
  route.compiled =
    ⟨between.program route.settings.options source body, [between.placeholder.key]⟩

variable {between : Between} {route : Route} {source value : Text} {body : Expr}

/-- The parameter is the only one of the route. -/
theorem Compiles.keys (compiles : between.Compiles route source body) :
    route.compiled.keys = [between.placeholder.key] := by
  rw [compiles]

/-- A path is searched for the texts and the parameter when it has been normalized. -/
theorem Compiles.find_eq (compiles : between.Compiles route source body) (path : Text) :
    route.find path =
      (between.program route.settings.options source body).find (normalize path) := by
  rw [Route.find, compiles]

/-- A pattern that is cut into the tokens makes a route. -/
theorem exists_make {pattern : Text} {settings : Settings}
    (cut : tokenize settings.options.converters pattern = .ok between.tokens)
    (reads : Reads between.regex 0 fun _ => [body]) (bare : between.regex.head? ≠ some '?')
    (fixed : body.behindFixed = true) (back : between.after.getLast? ≠ some '/')
    (last : pattern.getLast? ≠ some '/') (label : Text) :
    ∃ route source, Route.make (.pattern pattern) settings label = .ok route ∧
      route.settings = settings ∧ route.tokens? = some between.tokens ∧
      between.Compiles route source body := by
  obtain ⟨source, compiles⟩ := compilePattern_eq cut reads bare fixed back
  obtain ⟨route, made, pattern, rfl, compiled⟩ := Route.make_pattern compiles last label
  refine ⟨route, source, made, rfl, ?_, compiled⟩
  simp only [Route.tokens?, pattern, cut]
  rfl

/-- A route writes the encoded value between its texts. -/
theorem resolve_eq (tokens : route.tokens? = some between.tokens) (given : value ≠ [])
    {entries : List (Datum × Datum)}
    (looked : Datum.lookup entries between.name = some (.text value)) {encoded : Text}
    (segment : Route.encodeSegment between.converter (.text value) = .ok encoded)
    (front : between.front ≠ []) :
    route.resolve (.dict entries) .null [] = .ok (between.front ++ (encoded ++ between.after)) := by
  have full : Datum.isEmptyText (.text value) = false := by simpa [Datum.isEmptyText] using given
  have placed : Route.writePlaceholder route.name entries between.placeholder =
      .ok (between.lead.toList ++ encoded) := by
    simp only [Route.writePlaceholder, placeholder, keyedPlaceholder, looked, Option.getD_some,
      full, Bool.false_eq_true, if_false, Route.segments, List.mapM_cons, List.mapM_nil, segment]
    rfl
  have nothing : Route.writeTokens route.name entries [] = .ok [] := rfl
  have written : Route.writeTokens route.name entries between.tokens =
      .ok (between.front ++ (encoded ++ between.after)) := by
    rw [Between.tokens, writeTokens_literalBefore, Route.writeTokens, placed,
      writeTokens_literalBefore, nothing]
    simp [Except.map, bind, Except.bind, pure, Except.pure, Between.front]
  have path : (between.front ++ (encoded ++ between.after)).isEmpty = false := by simp [front]
  simp only [Route.resolve, tokens, Route.entriesOf, written, bind, Except.bind, path,
    Bool.false_eq_true, if_false, writeUrl_path]

/-- The parameter of a path is what the group captures, decoded. -/
theorem Compiles.params_of_find (compiles : between.Compiles route source body)
    (converted : route.converters.convert between.converter value = .ok (.text value))
    {path captured : Text} (given : path ≠ []) {found : Regex.Match}
    (here : route.find path = some found) (captures : found.captures = [some captured])
    (decoded : Percent.decode captured = value) (convert : Bool) :
    ∃ params, route.params path convert = .ok params ∧
      params.named.get? between.name = some (.text value) := by
  have full : path.isEmpty = false := by simpa using given
  have fresh : (Table.empty : Table Datum).contains between.name = false := rfl
  have collected : route.collect convert
      ([between.placeholder.key].zip ([some captured].map (·.map Percent.decode))) Table.empty [] =
        .ok (Table.empty.set between.name (.text value), []) := by
    simp only [placeholder, keyedPlaceholder, List.map_cons, List.map_nil, Option.map_some, decoded,
      List.zip_cons_cons, List.zip_nil_left, Route.collect, fresh, Bool.false_eq_true, if_false,
      converted]
    cases convert <;> rfl
  simp only [Route.params, full, Bool.false_eq_true, if_false, here, Route.paramsOf, compiles.keys,
    captures, collected]
  refine ⟨_, rfl, ?_⟩
  exact Table.get?_foldl_setNew _ Datum.text (by rw [Table.get?_set, if_pos rfl])

/-- A path that is not found has no parameters. -/
theorem params_of_find_eq_none {path : Text} (given : path ≠ []) (missed : route.find path = none)
    (convert : Bool) : route.params path convert = .error (.noMatch route.name path) := by
  have full : path.isEmpty = false := by simpa using given
  simp only [Route.params, full, Bool.false_eq_true, if_false, missed]

end Between

end RoutePattern
