import Mathlib.Data.List.Induction
import RoutePattern.Proofs.Matching.Steady
import RoutePattern.Proofs.Segments.Program

/-!
# The parentheses of placeholders

Each placeholder of a route has one pair of parentheses of its own in the source of the route.
`groupPlaces` tells where they stand. A slash at the end of a route belongs to what the options ask
for there, so that the front of the route hangs on the pattern alone (`routeSource_eq`); it has the
same placeholders in the same places (`exists_routeFront`).
-/
namespace RoutePattern

open Regex
open Regex.Reader (Reads)

/-- The placeholder that a token is; a literal text is none. -/
def PatternToken.placeholder? : PatternToken → Option Placeholder
  | .literal _ => none
  | .placeholder found => some found

/-- The placeholders of a row of tokens. -/
def placeholders (tokens : List PatternToken) : List Placeholder :=
  tokens.filterMap PatternToken.placeholder?

namespace Placeholder

/-- What stands in front of the group of a placeholder. -/
def front (placeholder : Placeholder) : Text :=
  let lead := leadSource placeholder.lead
  if placeholder.optional && !lead.isEmpty then ['(', '?', ':'] ++ lead else lead

/-- What stands after the group of a placeholder. -/
def back (placeholder : Placeholder) : Text :=
  if !placeholder.optional then []
  else if (leadSource placeholder.lead).isEmpty then ['?']
  else [')', '?']

/-- The source of a placeholder has one pair of parentheses of its own. -/
theorem source_eq (placeholder : Placeholder) :
    placeholder.source = placeholder.front ++
      '(' :: (placeholder.captureSource ++ ')' :: placeholder.back) := by
  unfold source front back
  cases placeholder.optional with
  | false => simp
  | true =>
    cases lead : leadSource placeholder.lead with
    | nil => simp
    | cons c rest => simp

/-- The pair of parentheses in a source that goes on. -/
theorem source_append (placeholder : Placeholder) (rest : Text) :
    placeholder.source ++ rest = placeholder.front ++
      '(' :: (placeholder.captureSource ++ ')' :: (placeholder.back ++ rest)) := by
  rw [source_eq]
  simp

/-- The length of the source of a placeholder. -/
theorem length_source (placeholder : Placeholder) :
    placeholder.source.length = placeholder.front.length + 1 + placeholder.captureSource.length + 1 +
      placeholder.back.length := by
  rw [source_eq]
  simp
  omega

/-- The places of the parentheses of a placeholder whose source begins at a position. -/
def groupPlace (placeholder : Placeholder) (position : Nat) : Nat × Nat :=
  (position + placeholder.front.length,
    position + placeholder.front.length + 1 + placeholder.captureSource.length)

/-- A placeholder ends in a parenthesis or a question mark. -/
theorem getLast?_source (placeholder : Placeholder) :
    placeholder.source.getLast? = some ')' ∨ placeholder.source.getLast? = some '?' := by
  rw [source_eq, ← List.cons_append, ← List.append_assoc,
    List.getLast?_append_of_ne_nil _ (List.cons_ne_nil _ _)]
  unfold back
  split
  · exact .inl rfl
  · split
    · exact .inr rfl
    · exact .inr rfl

end Placeholder

/-- The places of the parentheses of all placeholders of tokens whose source begins at a
position. -/
def groupPlaces : (position : Nat) → List PatternToken → List (Nat × Nat)
  | _, [] => []
  | position, .literal text :: tokens => groupPlaces (position + (escapeRegex text).length) tokens
  | position, .placeholder found :: tokens =>
    found.groupPlace position :: groupPlaces (position + found.source.length) tokens

/-- Without placeholders there are no parentheses. -/
theorem groupPlaces_eq_nil {tokens : List PatternToken} (none : placeholders tokens = [])
    (position : Nat) : groupPlaces position tokens = [] := by
  induction tokens generalizing position with
  | nil => rfl
  | cons token tokens ih =>
    cases token with
    | literal text => exact ih none _
    | placeholder found => exact absurd none (List.cons_ne_nil _ _)

/-- Every placeholder has its parentheses. -/
theorem exists_groupPlace {tokens : List PatternToken} {index : Nat} {placeholder : Placeholder}
    (own : (placeholders tokens)[index]? = some placeholder) (position : Nat) :
    ∃ places, (groupPlaces position tokens)[index]? = some places := by
  induction tokens generalizing index position with
  | nil => exact absurd own (by simp [placeholders])
  | cons token tokens ih =>
    cases token with
    | literal text => exact ih own _
    | placeholder found =>
      cases index with
      | zero => exact ⟨_, rfl⟩
      | succ index => exact ih own _

/-- Every key is that of a placeholder. -/
theorem keys_eq (tokens : List PatternToken) :
    tokens.filterMap PatternToken.key? = (placeholders tokens).map (·.key) := by
  induction tokens with
  | nil => rfl
  | cons token tokens ih =>
    cases token with
    | literal text => exact ih
    | placeholder found => exact congrArg (found.key :: ·) ih

/-- The places of tokens one after the other. -/
theorem groupPlaces_append (position : Nat) (one two : List PatternToken) :
    groupPlaces position (one ++ two) = groupPlaces position one ++
      groupPlaces (position + (one.flatMap PatternToken.source).length) two := by
  induction one generalizing position with
  | nil => rfl
  | cons token one ih =>
    cases token with
    | literal text =>
      rw [List.cons_append, groupPlaces, ih, groupPlaces, List.flatMap_cons, List.length_append,
        ← Nat.add_assoc]
      rfl
    | placeholder found =>
      rw [List.cons_append, groupPlaces, ih, groupPlaces, List.flatMap_cons, List.length_append,
        ← Nat.add_assoc]
      rfl

/-! ## Starts and ends of sources -/

/-- An escaped literal starts with no sign that changes the appetite of a repetition. -/
theorem startsUnsigned_escapeRegex (text : Text) : StartsUnsigned (escapeRegex text) := by
  cases text with
  | nil => decide
  | cons c text =>
    by_cases special : regexSpecials.contains c = true
    · simp only [escapeRegex, StartsUnsigned, List.flatMap_cons, if_pos special]
      exact ⟨by simp, by simp⟩
    · have plain (d : Char) (known : regexSpecials.contains d = true) : c ≠ d := by
        rintro rfl
        exact special known
      simp only [escapeRegex, StartsUnsigned, List.flatMap_cons, if_neg special]
      exact ⟨by simpa using plain '?' (by decide), by simpa using plain '+' (by decide)⟩

/-- A token starts with no sign that changes the appetite of a repetition. -/
theorem startsUnsigned_source (token : PatternToken) : StartsUnsigned token.source := by
  cases token with
  | literal text => exact startsUnsigned_escapeRegex text
  | placeholder found =>
    have front : StartsUnsigned found.front := by
      have lead : StartsUnsigned (leadSource found.lead) := startsUnsigned_escapeRegex _
      unfold Placeholder.front
      simp only
      split
      · exact StartsUnsigned.append (by decide) lead
      · exact lead
    rw [PatternToken.source, Placeholder.source_eq]
    exact front.append (by simp [StartsUnsigned])

/-- A row of tokens starts with no sign that changes the appetite of a repetition. -/
theorem startsUnsigned_sources (tokens : List PatternToken) {rest : Text}
    (unsigned : StartsUnsigned rest) :
    StartsUnsigned (tokens.flatMap PatternToken.source ++ rest) := by
  induction tokens with
  | nil => exact unsigned
  | cons token tokens ih =>
    rw [List.flatMap_cons, List.append_assoc]
    exact (startsUnsigned_source token).append ih

/-- Two rows of tokens have the same placeholders in the same places. -/
structure SameGroups (one two : List PatternToken) : Prop where
  placeholders : placeholders one = placeholders two
  places : ∀ position, groupPlaces position one = groupPlaces position two

namespace SameGroups

variable {one two three : List PatternToken}

/-- A row of tokens has its own placeholders. -/
theorem refl (tokens : List PatternToken) : SameGroups tokens tokens := ⟨rfl, fun _ => rfl⟩

/-- The order of two rows does not matter. -/
theorem symm (same : SameGroups one two) : SameGroups two one :=
  ⟨same.placeholders.symm, fun position => (same.places position).symm⟩

/-- Three rows with the same placeholders. -/
theorem trans (same : SameGroups one two) (other : SameGroups two three) : SameGroups one three :=
  ⟨same.placeholders.trans other.placeholders,
    fun position => (same.places position).trans (other.places position)⟩

/-- A literal after some tokens adds no placeholder. -/
theorem concat_literal (tokens : List PatternToken) (text : Text) :
    SameGroups (tokens ++ [.literal text]) tokens := by
  refine ⟨by simp [RoutePattern.placeholders, PatternToken.placeholder?], fun position => ?_⟩
  rw [groupPlaces_append]
  exact List.append_nil _

end SameGroups

/-- A literal that is not empty has a source with the same last character. -/
theorem getLast?_escapeRegex_concat (text : Text) (c : Char) :
    escapeRegex (text ++ [c]) ≠ [] ∧ (escapeRegex (text ++ [c])).getLast? = some c := by
  have last : (escapeRegex (text ++ [c])).getLast? = some c := by
    rw [getLast?_escapeRegex, List.getLast?_concat]
  refine ⟨fun none => ?_, last⟩
  rw [none] at last
  exact absurd last (by simp)

/-- What stands in the literals of a row of tokens. -/
def literalText (tokens : List PatternToken) : Text :=
  tokens.flatMap fun
    | .literal text => text
    | .placeholder _ => []

/-- The literals of tokens one after the other. -/
theorem literalText_append (one two : List PatternToken) :
    literalText (one ++ two) = literalText one ++ literalText two := List.flatMap_append ..

/-- A row of tokens whose source ends in a slash can do without this slash: it belongs to a
literal. -/
theorem exists_dropLast {tokens : List PatternToken}
    (ending : (tokens.flatMap PatternToken.source).getLast? = some '/') :
    ∃ others, SameGroups others tokens ∧ literalText others ⊆ literalText tokens ∧
      others.flatMap PatternToken.source = (tokens.flatMap PatternToken.source).dropLast := by
  -- From the last token on: an empty literal has no source, and the slash is in front of it.
  induction tokens using List.reverseRecOn with
  | nil => exact absurd ending (by simp)
  | append_singleton tokens token ih =>
    rw [List.flatMap_append] at ending ⊢
    have whole : [token].flatMap PatternToken.source = token.source := by simp
    rw [whole] at ending ⊢
    cases token with
    | placeholder found =>
      rw [PatternToken.source, List.getLast?_append] at ending
      rcases found.getLast?_source with last | last <;>
        exact absurd ending (by simp [last])
    | literal text =>
      rcases List.eq_nil_or_concat text with rfl | ⟨shorter, c, rfl⟩
      · have empty : (PatternToken.literal []).source = [] := rfl
        rw [empty, List.append_nil] at ending ⊢
        obtain ⟨others, same, within, dropped⟩ := ih ending
        rw [literalText_append]
        exact ⟨others, same.trans (SameGroups.concat_literal tokens []).symm,
          List.subset_append_of_subset_left _ within, dropped⟩
      · rw [List.concat_eq_append] at ending ⊢
        obtain ⟨given, last⟩ := getLast?_escapeRegex_concat shorter c
        rw [PatternToken.source, List.getLast?_append_of_ne_nil _ given, last] at ending
        obtain rfl := Option.some.inj ending
        refine ⟨tokens ++ [.literal shorter], (SameGroups.concat_literal tokens shorter).trans
          (SameGroups.concat_literal tokens (shorter ++ ['/'])).symm, ?_, ?_⟩
        · rw [literalText_append, literalText_append]
          simp [literalText]
        have slash : escapeRegex ['/'] = ['/'] := by decide
        rw [List.flatMap_append, PatternToken.source, escapeRegex_append, slash,
          ← List.append_assoc, List.dropLast_concat]
        simp [PatternToken.source]

/-! ## Fronts and ends of routes -/

/-- The source of a row of tokens ends in a slash. -/
def endsInSlash (tokens : List PatternToken) : Bool :=
  (tokens.flatMap PatternToken.source).getLast? == some '/'

/-- The source of a row of tokens without a slash at its end. -/
def routeFront (tokens : List PatternToken) : Text :=
  if endsInSlash tokens then (tokens.flatMap PatternToken.source).dropLast
  else tokens.flatMap PatternToken.source

/-- What the options ask for after the front of a route, with the slash if it has to stay. -/
def finalSource (options : Options) (slash : Bool) : Text :=
  if options.strict && slash then '/' :: if options.whole then ['$'] else []
  else tailSource options

/-- The parts that the end of a route is read as, with those of a slash that has to stay. -/
def finalParts (options : Options) (slash : Bool) : List Expr :=
  if options.strict && slash then
    .char '/'.toNat :: if options.whole then [.anchor .lineEnd] else []
  else tailParts options

/-- The source of a route is its front with what the options ask for after it. -/
theorem routeSource_eq (options : Options) (tokens : List PatternToken) :
    routeSource options tokens = routeFront tokens ++ finalSource options (endsInSlash tokens) := by
  have folded : ((tokens.flatMap PatternToken.source).getLast? == some '/') = endsInSlash tokens :=
    rfl
  unfold routeSource routeFront finalSource tailSource
  simp only [folded]
  cases ending : endsInSlash tokens with
  | false => cases options.strict <;> cases options.whole <;> simp
  | true =>
    have slash : (tokens.flatMap PatternToken.source).getLast? = some '/' := by
      simpa [endsInSlash] using ending
    obtain ⟨before, whole⟩ := List.getLast?_eq_some_iff.1 slash
    rw [whole]
    cases options.strict <;> cases options.whole <;> simp

/-- The front of a route is the source of a row of tokens with the same placeholders, and with no
other characters in its literals. -/
theorem exists_routeFront_within (tokens : List PatternToken) :
    ∃ others, SameGroups others tokens ∧ literalText others ⊆ literalText tokens ∧
      others.flatMap PatternToken.source = routeFront tokens := by
  unfold routeFront
  split
  · next ending =>
    exact exists_dropLast (by simpa [endsInSlash] using ending)
  · exact ⟨tokens, SameGroups.refl tokens, List.Subset.refl _, rfl⟩

/-- The front of a route is the source of a row of tokens with the same placeholders. -/
theorem exists_routeFront (tokens : List PatternToken) :
    ∃ others, SameGroups others tokens ∧
      others.flatMap PatternToken.source = routeFront tokens := by
  obtain ⟨others, same, -, front⟩ := exists_routeFront_within tokens
  exact ⟨others, same, front⟩

/-- The end of a route is read as its parts. -/
theorem reads_final (options : Options) (slash : Bool) :
    Reads (finalSource options slash) 0 fun _ => finalParts options slash := by
  have char : Reads ['/'] 0 fun _ => [.char '/'.toNat] := Reads.literal ['/']
  unfold finalSource finalParts
  split
  · cases options.whole with
    | false => exact char
    | true => exact char.append Reads.wholeEnd (by decide)
  · exact reads_tail options

/-- The end of a route starts with no sign that changes the appetite of a repetition. -/
theorem startsUnsigned_final (options : Options) (slash : Bool) :
    StartsUnsigned (finalSource options slash) := by
  unfold finalSource
  split
  · simp [StartsUnsigned]
  · exact startsUnsigned_tail options

/-- The end of a route is plain. -/
theorem plain_final (options : Options) (slash : Bool) : Plain (finalParts options slash) := by
  unfold finalParts tailParts
  cases slash <;> cases options.strict <;> cases options.whole <;> decide

/-!
## Patterns that end in a slash

The source of a route ends in a slash only if its pattern does (`getLast?_of_endsInSlash`): no
placeholder ends in a slash, and the last character of a literal text at the end of a pattern is the
last character of the pattern.
-/

/-- The source of a literal text ends as the text does, and that of no text is empty. -/
theorem getLast?_literalBefore (literal : Text) (tokens : List PatternToken) :
    ((literalBefore literal tokens).flatMap PatternToken.source).getLast? =
      (tokens.flatMap PatternToken.source).getLast?.or literal.getLast? := by
  cases literal with
  | nil => simp [literalBefore]
  | cons c literal =>
    have cut : (literalBefore (c :: literal) tokens).flatMap PatternToken.source =
        escapeRegex (c :: literal) ++ tokens.flatMap PatternToken.source := rfl
    rw [cut, List.getLast?_append, getLast?_escapeRegex]

/-- The last character of a text that is read after a character which is kept as a literal. -/
theorem getLast?_kept {c : Char} {rest before literal : Text}
    (later : (rest.getLast?.or (c :: literal).head?) = some '/') :
    ((c :: rest).getLast?.or before.head?) = some '/' := by
  rw [List.getLast?_cons]
  cases ending : rest.getLast? with
  | none => simpa [ending] using later
  | some d => simpa [ending] using later

/-- A slash at the end of the source comes after every placeholder, for none ends in a slash. -/
theorem getLast?_of_placeholder {literal : Text} {placeholder : Placeholder}
    {tokens : List PatternToken}
    (slash : ((literalBefore literal (.placeholder placeholder :: tokens)).flatMap
      PatternToken.source).getLast? = some '/') :
    (tokens.flatMap PatternToken.source).getLast? = some '/' := by
  obtain ⟨sign, ending, other⟩ : ∃ sign, placeholder.source.getLast? = some sign ∧ sign ≠ '/' := by
    rcases placeholder.getLast?_source with ending | ending
    · exact ⟨_, ending, by decide⟩
    · exact ⟨_, ending, by decide⟩
  have whole : ((PatternToken.placeholder placeholder :: tokens).flatMap
      PatternToken.source).getLast? =
      (tokens.flatMap PatternToken.source).getLast?.or placeholder.source.getLast? := by
    rw [List.flatMap_cons, List.getLast?_append]
    rfl
  rw [getLast?_literalBefore, whole, ending, Option.or_assoc, Option.some_or] at slash
  cases own : (tokens.flatMap PatternToken.source).getLast? with
  | none =>
    rw [own, Option.none_or] at slash
    exact absurd (Option.some.inj slash) other
  | some last =>
    rw [own] at slash
    exact slash

/-- If the source of the tokens that are read ends in a slash, so does the text that they are read
from, or else the literal text before it, if nothing is left to read. -/
theorem getLast?_of_readTokens {converters : Converters} {pattern text literal : Text}
    {skip position : Nat} {tokens : List PatternToken}
    (read : readTokens converters pattern text skip position literal = .ok tokens)
    (slash : (tokens.flatMap PatternToken.source).getLast? = some '/') :
    ((text.drop skip).getLast?.or literal.head?) = some '/' := by
  fun_induction readTokens converters pattern text skip position literal generalizing tokens with
  | case1 skip position literal =>
    obtain rfl := Except.ok.inj read
    rw [getLast?_literalBefore, List.getLast?_reverse] at slash
    rw [List.drop_nil]
    exact slash
  | case2 head rest skip position literal ih => exact ih read slash
  | case3 position literal escaped tail lineEnd ih =>
    -- A backslash before a line end stays a backslash, and the line end is read after it.
    exact getLast?_kept (ih read slash)
  | case4 position literal escaped tail other ih =>
    have later := ih read slash
    rw [List.drop_succ_cons, List.drop_zero] at later
    rw [List.drop_zero, List.getLast?_cons_cons]
    exact getLast?_kept later
  | case5 c rest position literal headless stray alone =>
    rw [headless] at read
    exact absurd (read.symm.trans (if_pos stray)) (by simp)
  | case6 c rest position literal headless plain alone ih =>
    rw [headless] at read
    exact getLast?_kept (ih ((if_neg plain).symm.trans read) slash)
  | case7 c rest position literal lead head body led alone ih =>
    rw [led] at read
    obtain ⟨⟨placeholder, after⟩, -, later⟩ := exists_of_bind read
    obtain ⟨found, others, made⟩ := exists_of_bind later
    obtain rfl := Except.ok.inj made
    have last := getLast?_of_placeholder slash
    have later := ih after others last
    rw [List.head?_nil, Option.or_none, List.getLast?_drop] at later
    split at later
    · exact absurd later (by simp)
    · rw [List.drop_zero, List.getLast?_cons, later]
      rfl

/-- If the source of the tokens of a pattern ends in a slash, so does the pattern. -/
theorem getLast?_of_endsInSlash {own : Converters} {pattern : Text} {tokens : List PatternToken}
    (read : tokenize own pattern = .ok tokens) (slash : endsInSlash tokens = true) :
    pattern.getLast? = some '/' := by
  have found := getLast?_of_readTokens read (by simpa [endsInSlash] using slash)
  rw [List.drop_zero, List.head?_nil, Option.or_none] at found
  exact found

end RoutePattern
