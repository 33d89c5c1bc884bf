import RoutePattern.Pattern.Compiled
import RoutePattern.Proofs.Language.Anchored
import RoutePattern.Proofs.Language.Quantifier
import RoutePattern.Proofs.Segments.Ends

/-!
# Repeated parameters with a regular expression of their own

A parameter may bring its regular expression along, between parentheses behind its name. Where this
is a phrase, the pattern of such a parameter is one token (`tokenize_ownParameter`), its source is
read as a slash and a group with the phrase, or with the phrase and a copy spliced behind it if the
parameter is repeated (`Regex.Phrase.reaches_parameter`), and the texts that match are known
exactly (`Regex.Phrase.matches_routeExpr_iff`). They are the segments that the phrase matches as a
whole only as long as the phrase has no bar outside of its groups (`matches_repeatedParameter`).
-/
namespace RoutePattern.Regex

open scoped Computability

namespace Phrase

/-!
## Repeated phrases

The regular expression of all occurrences of a repeated parameter is a text with two copies of that
of one occurrence, the second one in a group behind a slash (`Phrase.spliced`). No parentheses
stand around either copy. So what is repeated goes on with the last branch of the first copy only,
and the slash belongs to the first branch of the second one only (`Phrase.language_spliced`). A
phrase of a single branch is repeated as a whole, with a slash in front of each further copy
(`Phrase.exists_mem_spreadLanguage_iff`).
-/

/-- A slash stands for itself. -/
def slash : Atom := Atom.literal '/' (by decide)

variable (phrase : Phrase)

/-- The phrase in a group behind a slash, any number of times. -/
def repetition : Phrase := .group (.one slash none phrase) (some (.sign .star false)) .nil

/-- The phrase as often as wanted, as a repeated parameter writes it. -/
def spliced : Phrase := phrase.append phrase.repetition

/-- The text that is spliced into itself. -/
theorem text_spliced : phrase.spliced.text =
    phrase.text ++ ['(', '?', ':'] ++ ['/'] ++ phrase.text ++ [')', '*'] := by
  rw [spliced, text_append]
  simp [repetition, text, slash, Atom.literal, Quantifier.textOf, Quantifier.sign, lazySign,
    RepetitionSign.char]

/-- What a phrase takes. -/
def language : Language Char := Expr.branchesLanguage Flags.none phrase.branches

/-- The last branch of a phrase. -/
def lastBranch : List Expr := phrase.branches.getLast phrase.branches_ne_nil

/-- The branches of a phrase behind a slash; the slash belongs to the first of them. -/
def slashedBranches : List (List Expr) := phrase.branches.modifyHead ([.char '/'.toNat] ++ ·)

/-- What a phrase takes with a copy of it spliced behind: a text of a branch that is not the last,
or one of the last branch with further texts behind it, each of them a slash and a text of the
first branch or a text of another branch. -/
def spreadLanguage : Language Char :=
  Expr.branchesLanguage Flags.none phrase.branches.dropLast +
    (Expr.sequence phrase.lastBranch).language Flags.none *
      (Expr.branchesLanguage Flags.none phrase.slashedBranches)∗

/-- The expression of a phrase takes what its branches take. -/
theorem language_expr : phrase.expr.language Flags.none = phrase.language :=
  Expr.language_alternation rfl phrase.branches_ne_nil

/-- A phrase by itself matches the whole of the texts that it takes. -/
theorem matchesWhole_iff {program : Program}
    (made : Program.compile phrase.text Flags.none = .ok program) {text : Text} :
    program.MatchesWhole text ↔ text ∈ phrase.language := by
  obtain rfl := Except.ok.inj (made.symm.trans (phrase.compile_text rfl))
  rw [Program.matchesWhole_iff phrase.isRegular_expr, language_expr]

/-- What is spliced behind a phrase is one branch with one part, which repeats the phrase behind a
slash. -/
theorem branches_repetition : phrase.repetition.branches =
    [[.loop 0 none .greedy (.sequence (Expr.alternation phrase.slashedBranches))]] := rfl

/-- A phrase with a copy of it spliced behind goes on with its last branch. -/
theorem language_spliced : phrase.spliced.language = phrase.spreadLanguage := by
  have cut : phrase.branches = phrase.branches.dropLast ++ [phrase.lastBranch] :=
    (List.dropLast_append_getLast phrase.branches_ne_nil).symm
  have some : phrase.slashedBranches ≠ [] := by
    simpa [slashedBranches] using phrase.branches_ne_nil
  have rows : phrase.spliced.branches = phrase.branches.dropLast ++ [phrase.lastBranch ++
      [.loop 0 none .greedy (.sequence (Expr.alternation phrase.slashedBranches))]] := by
    rw [spliced, branches_append, branches_repetition]
    conv_lhs => rw [cut]
    rw [joined_concat, List.modifyHead_cons]
  rw [language, rows, spreadLanguage, Expr.branchesLanguage, List.map_append, List.sum_append,
    ← Expr.branchesLanguage, List.map_singleton, List.sum_singleton, Expr.language_sequence_append,
    Expr.language_sequence_singleton, Expr.language, Expr.language_alternation rfl some,
    times_zero_none]

/-! ## Phrases of a single branch -/

/-- A slash takes itself alone. -/
theorem mem_language_slash {text : Text} :
    text ∈ (Expr.char '/'.toNat).language Flags.none ↔ text = ['/'] := by
  constructor
  · rintro ⟨c, accepted, rfl⟩
    have same : '/'.toNat = c.toNat := beq_iff_eq.1 accepted
    rw [Char.toNat_inj.1 same]
  · rintro rfl
    exact ⟨'/', rfl, rfl⟩

/-- Any number of texts of a language, with a slash in front of each. -/
theorem mem_kstar_slashed {language : Language Char} {text : Text} :
    text ∈ ((Expr.char '/'.toNat).language Flags.none * language)∗ ↔
      ∃ segments, text = slashed segments ∧ ∀ segment ∈ segments, segment ∈ language := by
  have one {piece : Text} : piece ∈ (Expr.char '/'.toNat).language Flags.none * language ↔
      ∃ segment ∈ language, '/' :: segment = piece := by
    rw [Language.mem_mul]
    simp only [mem_language_slash, exists_eq_left, List.singleton_append]
  rw [Language.mem_kstar]
  constructor
  · rintro ⟨pieces, rfl, each⟩
    induction pieces with
    | nil => exact ⟨[], rfl, by simp⟩
    | cons piece pieces ih =>
      obtain ⟨first, others⟩ := List.forall_mem_cons.1 each
      obtain ⟨segment, member, rfl⟩ := one.1 first
      obtain ⟨segments, same, members⟩ := ih others
      exact ⟨segment :: segments, by simp [same], List.forall_mem_cons.2 ⟨member, members⟩⟩
  · rintro ⟨segments, rfl, each⟩
    refine ⟨segments.map ('/' :: ·), List.flatMap_def .., fun piece found => ?_⟩
    obtain ⟨segment, member, rfl⟩ := List.mem_map.1 found
    exact one.2 ⟨segment, each segment member, rfl⟩

/-- A phrase of a single branch is repeated as a whole. -/
theorem exists_mem_spreadLanguage_iff (single : phrase.branches.length = 1) {text : Text} :
    (∃ rest ∈ phrase.spreadLanguage, text = '/' :: rest) ↔ ∃ segments, segments ≠ [] ∧
      text = slashed segments ∧ ∀ segment ∈ segments, segment ∈ phrase.language := by
  obtain ⟨row, only⟩ := List.length_eq_one_iff.1 single
  have whole : phrase.language = (Expr.sequence row).language Flags.none := by
    simp [language, Expr.branchesLanguage, only]
  have spread : phrase.spreadLanguage =
      phrase.language * ((Expr.char '/'.toNat).language Flags.none * phrase.language)∗ := by
    have slashed : phrase.slashedBranches = [[.char '/'.toNat] ++ row] := by
      rw [slashedBranches, only, List.modifyHead_cons]
    have last : phrase.lastBranch = row := by simp [lastBranch, only]
    simp only [spreadLanguage, last, slashed, only, whole, Expr.branchesLanguage,
      List.dropLast_singleton, List.map_nil, List.sum_nil, zero_add, List.map_singleton,
      List.sum_singleton, Expr.language_sequence_append, Expr.language_sequence_singleton]
  simp only [spread, Language.mem_mul, mem_kstar_slashed]
  constructor
  · rintro ⟨_, ⟨segment, member, _, ⟨segments, rfl, each⟩, rfl⟩, rfl⟩
    exact ⟨segment :: segments, List.cons_ne_nil _ _, rfl, List.forall_mem_cons.2 ⟨member, each⟩⟩
  · rintro ⟨segments, some, rfl, each⟩
    obtain ⟨segment, others, rfl⟩ := List.exists_cons_of_ne_nil some
    obtain ⟨member, later⟩ := List.forall_mem_cons.1 each
    exact ⟨_, ⟨segment, member, slashed others, ⟨others, rfl, later⟩, rfl⟩, rfl⟩

end Phrase

end RoutePattern.Regex

namespace RoutePattern

open Regex Regex.Reader
open Scan (facing Reaches)

/-- A parameter with a regular expression of its own, as a pattern writes it. -/
def ownParameter (name regex : Text) (modifier : Modifier) : Text :=
  '/' :: ':' :: (name ++ '(' :: (regex ++ ')' :: modifier.text))

/-- The placeholder of a parameter with a regular expression of its own. -/
def ownPlaceholder (name regex : Text) (modifier : Modifier) : Placeholder :=
  keyedPlaceholder (some '/') name regex standardConverter modifier.mayBeEmpty modifier.mayRepeat

/-! ## The token -/

/-- The regular expression of a parameter is what the scanner finds between its parentheses. -/
theorem readPlaceholder_own {converters : Converters} {pattern name regex : Text}
    {modifier : Modifier} (some : regex ≠ [])
    (closes : closeGroup 0 false (regex ++ ')' :: modifier.text) = .some (regex, modifier.text))
    (position : Nat) :
    readPlaceholder converters pattern (.some '/') (.named name) position
        ('(' :: (regex ++ ')' :: modifier.text)) =
      .ok (ownPlaceholder name (nonCapturing regex) modifier, []) := by
  have group : readGroup pattern position ('(' :: (regex ++ ')' :: modifier.text)) =
      .ok (regex, modifier.text) := by
    obtain ⟨c, others, rfl⟩ := List.exists_cons_of_ne_nil some
    rw [readGroup, List.drop_one, List.tail_cons, closes]
  have modified := readModifier_text modifier (.inl rfl)
  rw [List.append_nil] at modified
  simp only [readPlaceholder, List.head?_cons, beq_self_eq_true, if_true, group]
  simp [Except.map, bind, Except.bind, pure, Except.pure, modified, ownPlaceholder]

/-- A pattern that is read as a placeholder to its end is one token. -/
theorem tokenize_placeholder {own : Converters} {c : Char} {text body : Text} {lead : Option Char}
    {head : PlaceholderHead} {placeholder : Placeholder} (bare : c ≠ '\\')
    (led : readLedHead (c :: text) = some (lead, head, body))
    (read : ∀ position, readPlaceholder (Converters.extended own) (c :: text) lead head position
      body = .ok (placeholder, [])) :
    tokenize own (c :: text) = .ok [.placeholder placeholder] := by
  rw [← List.append_nil text] at led
  have token := readTokens_placeholder bare led read 0 []
  rw [List.append_nil] at token
  rw [tokenize, token]
  rfl

/-- The parameter is one token. -/
theorem tokenize_ownParameter (own : Converters) {name regex : Text} {modifier : Modifier}
    (given : name ≠ []) (chars : ∀ c ∈ name, isNameChar c = true) (some : regex ≠ [])
    (closes : closeGroup 0 false (regex ++ ')' :: modifier.text) = .some (regex, modifier.text)) :
    tokenize own (ownParameter name regex modifier) =
      .ok [.placeholder (ownPlaceholder name (nonCapturing regex) modifier)] := by
  have stop : ∀ c ∈ ('(' :: (regex ++ ')' :: modifier.text)).head?, isNameChar c = false := by
    rintro c ⟨rfl⟩
    decide
  have led : readLedHead (ownParameter name regex modifier) =
      .some (.some '/', .named name, '(' :: (regex ++ ')' :: modifier.text)) := by
    simp [readLedHead, ownParameter, readHead_colon given chars stop]
  exact tokenize_placeholder (by decide) led fun position =>
    readPlaceholder_own some closes position

/-! ## The regular expression -/

namespace Regex.Phrase

variable (phrase : Phrase) (modifier : Modifier)

/-- What the group of a parameter holds. -/
def captured : Phrase := if modifier.mayRepeat then phrase.spliced else phrase

/-- The parts of a parameter that is not optional. -/
def taken : List Expr := [.char '/'.toNat, .group 1 (phrase.captured modifier).expr]

/-- The parts of a parameter. -/
def parameterParts : List Expr :=
  if modifier.mayBeEmpty then [.loop 0 (some 1) .greedy (.sequence (phrase.taken modifier))]
  else phrase.taken modifier

/-- The source of a parameter. -/
theorem source_ownPlaceholder (name : Text) :
    (ownPlaceholder name phrase.text modifier).source =
      if modifier.mayBeEmpty then
        ['(', '?', ':'] ++ '/' :: ('(' :: (phrase.captured modifier).text ++ [')']) ++ [')', '?']
      else '/' :: ('(' :: (phrase.captured modifier).text ++ [')']) := by
  have slash : leadSource (some '/') = ['/'] := by decide
  have inside : (ownPlaceholder name phrase.text modifier).captureSource =
      (phrase.captured modifier).text := by
    rw [Placeholder.captureSource]
    simp only [ownPlaceholder, keyedPlaceholder, slash, captured]
    cases modifier.mayRepeat with
    | false => rfl
    | true => simp [text_spliced]
  rw [Placeholder.source, inside]
  simp only [ownPlaceholder, keyedPlaceholder, slash]
  cases modifier.mayBeEmpty <;> rfl

/-- A slash and a phrase between parentheses are a character and a group. -/
theorem reaches_slash_group (reader : Reader) (shown : reader.frame.verbose = false)
    (position : Nat) : ∃ width, ∀ rest,
      (facing reader position ('/' :: '(' :: (phrase.text ++ ')' :: rest))).Reaches
        (facing ((reader.widen [width]).append
          [.char '/'.toNat, .group (reader.widths.length + 1) phrase.expr])
          (position + 3 + phrase.text.length) rest) := by
  obtain ⟨width, group⟩ :=
    phrase.reaches_group (reader.append [.char '/'.toNat]) shown (position + 1)
  refine ⟨width, fun rest => ?_⟩
  have first := reaches_literal (show regexSpecials.contains '/' = false by decide)
    ('(' :: (phrase.text ++ ')' :: rest)) position reader
  rw [push_eq_append] at first
  have reach := first.trans (group rest)
  rw [widen_append, append_append, widths_append] at reach
  have wide : position + 1 + 1 + phrase.text.length + 1 = position + 3 + phrase.text.length := by
    omega
  rwa [wide] at reach

/-- The source of a whole route with one parameter. -/
def routeText (name : Text) : Text :=
  '^' :: ((ownPlaceholder name phrase.text modifier).source ++ ['$'])

/-- The expression of a whole route with one parameter. -/
def routeExpr : Expr :=
  .sequence ([.anchor .lineStart] ++ (phrase.parameterParts modifier ++ [.anchor .lineEnd]))

/-- The parts of a parameter are regular. -/
theorem isRegular_parameterParts :
    ∀ part ∈ phrase.parameterParts modifier, part.isRegular = true := by
  have taken : ∀ part ∈ phrase.taken modifier, part.isRegular = true :=
    List.forall_mem_cons.2
      ⟨rfl, List.forall_mem_singleton.2 (phrase.captured modifier).isRegular_expr⟩
  unfold parameterParts
  split
  · refine List.forall_mem_singleton.2 ?_
    simp [Expr.isRegular, Expr.isRegular_sequence.2 taken]
  · exact taken

/-- A parameter is read as its parts. -/
theorem reaches_parameter (name : Text) {reader : Reader} (shown : reader.frame.verbose = false)
    (first : reader.widths = []) (position : Nat) {rest : Text} (unsigned : StartsUnsigned rest) :
    ∃ width : Option Width,
      (facing reader position ((ownPlaceholder name phrase.text modifier).source ++ rest)).Reaches
        (facing ((reader.widen [width]).append (phrase.parameterParts modifier))
          (position + (ownPlaceholder name phrase.text modifier).source.length) rest) := by
  rw [source_ownPlaceholder, parameterParts, taken]
  cases modifier.mayBeEmpty with
  | false =>
    obtain ⟨width, reach⟩ := (phrase.captured modifier).reaches_slash_group reader shown position
    have here := reach rest
    rw [first] at here
    exact ⟨width, by simpa [Nat.add_assoc, Nat.add_comm 3] using here⟩
  | true =>
    obtain ⟨width, reach⟩ := (phrase.captured modifier).reaches_slash_group
      (reader.openFrame .plain position reader.frame.verbose) shown (position + 3)
    rw [show (reader.openFrame .plain position reader.frame.verbose).widths = [] from first]
      at reach
    refine ⟨width, reaches_repeated (fun rest _ => ?_) (.inl ⟨rfl, rfl⟩) unsigned⟩
    have wide : position + 3 + ('/' :: ('(' :: (phrase.captured modifier).text ++ [')'])).length =
        position + 3 + 3 + (phrase.captured modifier).text.length := by
      simp only [List.length_append, List.length_cons, List.length_nil]
      omega
    rw [wide]
    simpa using reach rest

/-- The regular expression of a route with one parameter compiles. -/
theorem compile_routeText (name : Text) :
    Program.compile (phrase.routeText modifier name) Flags.none =
      .ok ⟨phrase.routeText modifier name, Flags.none, phrase.routeExpr modifier, 1, []⟩ := by
  have starts := reaches_circumflex ((ownPlaceholder name phrase.text modifier).source ++ ['$']) 0
    (Reader.start Flags.none)
  obtain ⟨width, reads⟩ := @reaches_parameter phrase modifier name
    ((Reader.start Flags.none).append [.anchor .lineStart]) rfl rfl 1 ['$']
    (by simp [StartsUnsigned])
  have ends := reaches_dollar [] (1 + (ownPlaceholder name phrase.text modifier).source.length)
    ((((Reader.start Flags.none).append [.anchor .lineStart]).widen [width]).append
      (phrase.parameterParts modifier))
  rw [push_eq_append] at starts ends
  have reach := (starts.trans reads).trans ends
  rw [widen_append, append_append, append_append] at reach
  have inside : (((Reader.start Flags.none).widen [width]).append ([.anchor .lineStart] ++
      (phrase.parameterParts modifier ++ [.anchor .lineEnd]))).frame.expr =
        phrase.routeExpr modifier :=
    congrArg Expr.sequence (frame_parts_append _ _ rfl rfl)
  have fixed : (phrase.routeExpr modifier).behindFixed = true := by
    have parts : (phrase.parameterParts modifier).all Expr.behindFixed = true :=
      List.all_eq_true.2 fun part found =>
        Expr.behindFixed_of_isRegular (phrase.isRegular_parameterParts modifier part found)
    rw [routeExpr, behindFixed_sequence, List.all_append, List.all_append, parts]
    rfl
  exact Program.compile_of_facing reach rfl rfl rfl inside fixed

/-- A parameter takes a slash and what its group takes, and nothing as well if it is optional. -/
theorem mem_language_parameterParts {text : Text} :
    text ∈ (Expr.sequence (phrase.parameterParts modifier)).language Flags.none ↔
      (modifier.mayBeEmpty = true ∧ text = []) ∨
        ∃ rest ∈ (phrase.captured modifier).language, text = '/' :: rest := by
  have taken : text ∈ (Expr.sequence (phrase.taken modifier)).language Flags.none ↔
      ∃ rest ∈ (phrase.captured modifier).language, text = '/' :: rest := by
    rw [Phrase.taken, Expr.language_sequence, List.map_cons, List.map_singleton, List.prod_cons,
      List.prod_singleton, show (Expr.group 1 (phrase.captured modifier).expr).language Flags.none =
        (phrase.captured modifier).language from (phrase.captured modifier).language_expr,
      Language.mem_mul]
    simp only [mem_language_slash, exists_eq_left, List.singleton_append, eq_comm]
  unfold parameterParts
  split
  · next optional =>
    rw [Expr.language_sequence_singleton, Expr.language, times_zero_one, Language.mem_add, taken,
      Language.mem_one]
    simp [optional]
  · next required =>
    rw [taken]
    simp [required]

/-- A route with one parameter matches the texts without line ends that the parameter takes. -/
theorem matches_routeExpr_iff {source : Text} {groups : Nat} {names : List (Text × Nat)}
    {text : Text} (unbroken : '\n' ∉ text) :
    Program.Matches ⟨source, Flags.none, phrase.routeExpr modifier, groups, names⟩ text ↔
      (modifier.mayBeEmpty = true ∧ text = []) ∨
        ∃ rest ∈ (phrase.captured modifier).language, text = '/' :: rest := by
  rw [← mem_language_parameterParts]
  exact Program.matches_anchored_iff (phrase.isRegular_parameterParts modifier) rfl rfl unbroken

end Regex.Phrase

/-! ## The pattern -/

/-- A pattern that is one parameter with a phrase for its regular expression compiles. -/
theorem compilePattern_ownParameter (own : Converters) {name : Text} (given : name ≠ [])
    (chars : ∀ c ∈ name, isNameChar c = true) {phrase : Phrase} (some : phrase.text ≠ [])
    (modifier : Modifier) :
    compilePattern ⟨true, true, true, own⟩ (ownParameter name phrase.text modifier) =
      .ok ⟨⟨phrase.routeText modifier name, Flags.none, phrase.routeExpr modifier, 1, []⟩,
        [(ownPlaceholder name phrase.text modifier).key]⟩ := by
  have tokens := tokenize_ownParameter own given chars some (phrase.passed.body modifier.text)
  rw [phrase.passed.nonCapturing] at tokens
  have source : '^' :: routeSource ⟨true, true, true, own⟩
      [.placeholder (ownPlaceholder name phrase.text modifier)] =
        phrase.routeText modifier name := by
    simp [routeSource, PatternToken.source, Phrase.routeText]
  have compiled := phrase.compile_routeText modifier name
  unfold compilePattern
  simp only [tokens, Except.mapError, bind, Except.bind, source]
  simp only [show Options.flags ⟨true, true, true, own⟩ = Flags.none from rfl, compiled]
  rfl

/-- For a parameter that is repeated and has a phrase for its regular expression, the matching
texts without line ends are a slash and a text of the phrase with a copy of it spliced behind; a
star takes the empty text as well. If the phrase is a single branch, these are the texts of one
segment or more, each of which is matched as a whole by the phrase. -/
theorem matches_repeatedParameter (own : Converters) {name : Text} (given : name ≠ [])
    (chars : ∀ c ∈ name, isNameChar c = true) (phrase : Phrase) (some : phrase.text ≠ []) :
    ∃ single plus star,
      Program.compile phrase.text Flags.none = .ok single ∧
      compilePattern ⟨true, true, true, own⟩ (ownParameter name phrase.text .plus) = .ok plus ∧
      compilePattern ⟨true, true, true, own⟩ (ownParameter name phrase.text .star) = .ok star ∧
      (∀ text, single.MatchesWhole text ↔ text ∈ phrase.language) ∧
      ∀ text, '\n' ∉ text →
        (plus.program.Matches text ↔ ∃ rest ∈ phrase.spreadLanguage, text = '/' :: rest) ∧
        (star.program.Matches text ↔ text = [] ∨ plus.program.Matches text) ∧
        (phrase.branches.length = 1 → (plus.program.Matches text ↔ ∃ segments, segments ≠ [] ∧
          text = slashed segments ∧ ∀ segment ∈ segments, single.MatchesWhole segment)) := by
  have single : Program.compile phrase.text Flags.none =
      .ok ⟨phrase.text, Flags.none, phrase.expr, 0, []⟩ := phrase.compile_text rfl
  have spread (modifier : Modifier) (repeated : modifier.mayRepeat = true) :
      (phrase.captured modifier).language = phrase.spreadLanguage := by
    rw [Phrase.captured, if_pos repeated, phrase.language_spliced]
  refine ⟨_, _, _, single, compilePattern_ownParameter own given chars some .plus,
    compilePattern_ownParameter own given chars some .star,
    fun text => phrase.matchesWhole_iff single, fun text unbroken => ?_⟩
  have plus := @phrase.matches_routeExpr_iff .plus (phrase.routeText .plus name) 1 [] text unbroken
  have star := @phrase.matches_routeExpr_iff .star (phrase.routeText .star name) 1 [] text unbroken
  rw [spread .plus rfl] at plus
  rw [spread .star rfl] at star
  simp only [Modifier.mayBeEmpty, Bool.false_eq_true, false_and, false_or, true_and] at plus star
  refine ⟨plus, star.trans (or_congr_right plus.symm), fun alone => plus.trans ?_⟩
  simp only [phrase.exists_mem_spreadLanguage_iff alone, phrase.matchesWhole_iff single]

/-- A segment in which a group of two branches is repeated, and after it any character. -/
theorem matches_repeatedParameter_branches : ∃ plus,
    compilePattern ⟨true, true, true, Table.empty⟩
        "/:x((?:\\x41|[^/b]\x7b1,2\x7d\\d)*?.)+".toList = .ok plus ∧
      plus.program.Matches "/A0/cc1d".toList := by
  let letter := Atom.coded 'x' ['4', '1'] rfl
    (List.forall_mem_cons.2 ⟨rfl, List.forall_mem_singleton.2 rfl⟩) (by decide)
  let others := Atom.set ['^', '/', 'b'] (.set true [.char '/'.toNat, .char 'b'.toNat]) 5
    (by decide) rfl (.inl (by decide))
  let digit := Atom.escape 'd' (.set false [.category .digit false]) rfl
  let twice := Quantifier.braces ['1'] (some ['2']) ⟨by simp, by decide⟩
    (fun _ same => Option.some.inj same ▸ (⟨by simp, by decide⟩ : IsCount ['2'])) (by simp) rfl
    false
  let branches : Phrase := .one letter none (.bar (.one others (some twice) (.one digit none .nil)))
  let phrase : Phrase := .group branches (some (.sign .star true)) (.one .any none .nil)
  obtain ⟨single, plus, star, alone, compiled, -, -, accepts⟩ := matches_repeatedParameter
    Table.empty (List.cons_ne_nil 'x' []) (List.forall_mem_singleton.2 (by decide)) phrase
    (List.cons_ne_nil _ _)
  obtain rfl := Except.ok.inj ((phrase.compile_text rfl).symm.trans alone)
  refine ⟨plus, compiled, ((accepts _ (by decide)).2.2 rfl).2 ?_⟩
  refine ⟨["A0".toList, "cc1d".toList], List.cons_ne_nil _ _, rfl, ?_⟩
  exact List.forall_mem_cons.2 ⟨by decide +kernel, List.forall_mem_singleton.2 (by decide +kernel)⟩

/-- A bar outside of all groups parts the letter in front of it from what is repeated, and the
letter behind it from the slash. -/
example : (compilePattern ⟨true, true, true, Table.empty⟩ "/:x(a|b)+".toList).toOption.map
    (fun compiled => (decide (compiled.program.Matches "/a/b".toList),
      decide (compiled.program.Matches "/bb".toList))) = some (false, true) := by
  decide +kernel

end RoutePattern
