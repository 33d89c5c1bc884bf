import RoutePattern.Proofs.Groups.Segment
import RoutePattern.Proofs.Segments.Program

/-!
# A parameter between literal texts

A pattern of one parameter with literal text around it is cut into three tokens: the text before
the parameter without its lead, the parameter, and the text after it. It is compiled into the
characters of both texts and one group between them (`Between.compilePattern_eq`).
-/
namespace RoutePattern

open Regex Regex.Reader

/-- A parameter between literal texts. -/
structure Between where
  /-- The text before the parameter and its lead. -/
  before : Text
  lead : Option Char
  name : Text
  regex : Text
  converter : Text
  after : Text

namespace Between

/-- The placeholder of the parameter. -/
def placeholder (between : Between) : Placeholder :=
  keyedPlaceholder between.lead between.name between.regex between.converter false false

/-- The tokens of a pattern. -/
def tokens (between : Between) : List PatternToken :=
  literalBefore between.before
    (.placeholder between.placeholder :: literalBefore between.after [])

/-- The text before the parameter, with its lead. -/
def front (between : Between) : Text := between.before ++ between.lead.toList

/-- The regular expression of a pattern, whose parameter is matched by an expression of its own. -/
def expr (between : Between) (options : Options) (body : Expr) : Expr :=
  .sequence (.anchor .lineStart :: ((between.front.map fun c => .char c.toNat) ++
    .group 1 (.sequence [body]) :: ((between.after.map fun c => .char c.toNat) ++
      tailParts options)))

/-- The program of a pattern. -/
def program (between : Between) (options : Options) (source : Text) (body : Expr) :
    Regex.Program :=
  ⟨source, options.flags, between.expr options body, 1, []⟩

end Between

/-! ## Reading -/

/-- Text that stands for itself in a pattern. -/
def IsPlain (text : Text) : Prop := ∀ c ∈ text, c ∉ ['\\', ')'] ∧ c ∉ headSigns

/-- Text after the name of a parameter: it neither goes on with the name nor changes the
parameter. -/
def EndsName (text : Text) : Prop :=
  ∀ c ∈ text.head?, isNameChar c = false ∧ c ∉ ['(', '?', '*', '+']

section Reading

variable {converters : Converters} {pattern : Text}

/-- A character that is no lead stands for itself, whatever comes after it. -/
theorem readTokens_unled {c : Char} (plain : c ∉ ['\\', ')'] ∧ c ∉ headSigns)
    (unled : c ≠ '/' ∧ c ≠ '.') (rest : Text) (position : Nat) (literal : Text) :
    readTokens converters pattern (c :: rest) 0 position literal =
      readTokens converters pattern rest 0 (position + 1) (c :: literal) := by
  have headless : readLedHead (c :: rest) = none := by
    have heads := plain.2
    simp only [headSigns, List.mem_cons, List.not_mem_nil, or_false, not_or] at heads
    simp [readLedHead, readHead, unled, heads]
  exact readTokens_headless plain.1 headless position literal

/-- Text in front of a parameter that has no lead, or in front of the lead, stands for itself. -/
theorem readTokens_before {before : Text} {lead : Option Char} (plain : IsPlain before)
    (known : IsLead lead) (lone : lead = none → ∀ c ∈ before.getLast?, c ≠ '/' ∧ c ≠ '.')
    (rest : Text) (position : Nat) (literal : Text) :
    readTokens converters pattern (before ++ (lead.toList ++ rest)) 0 position literal =
      readTokens converters pattern (lead.toList ++ rest) 0 (position + before.length)
        (before.reverse ++ literal) := by
  cases lead with
  | some sign =>
    have next : ∀ c ∈ ((some sign).toList ++ rest).head?, c ∉ headSigns := by
      intro c found
      obtain rfl : sign = c := Option.some.inj found
      rcases known with none | slash | point
      · exact absurd none (by simp)
      · rw [Option.some.inj slash]
        decide
      · rw [Option.some.inj point]
        decide
    exact readTokens_text plain next position literal
  -- No lead tells the text and the parameter apart here, so the last character of the text must
  -- not be one that could be read as a lead.
  | none =>
    rcases List.eq_nil_or_concat before with rfl | ⟨init, c, rfl⟩
    · rfl
    rw [List.concat_eq_append] at plain lone ⊢
    have inner : ∀ d ∈ init, d ∉ ['\\', ')'] ∧ d ∉ headSigns :=
      fun d found => plain d (List.mem_append_left _ found)
    have last := plain c (by simp)
    have next : ∀ d ∈ (c :: rest).head?, d ∉ headSigns := by
      intro d found
      obtain rfl : c = d := Option.some.inj found
      exact last.2
    have text : init ++ [c] ++ ((none : Option Char).toList ++ rest) = init ++ c :: rest := by simp
    rw [text, readTokens_text inner next,
      readTokens_unled last (lone rfl c (List.getLast?_concat ..))]
    simp [Nat.add_assoc]

/-- A head is read together with the lead in front of it. -/
theorem readLedHead_lead {lead : Option Char} (known : IsLead lead) {sign : Char}
    (starts : sign ∈ headSigns) {text rest : Text} {head : PlaceholderHead}
    (read : readHead (sign :: text) = some (head, rest)) :
    readLedHead (lead.toList ++ sign :: text) = some (lead, head, rest) := by
  have unled : sign ≠ '/' ∧ sign ≠ '.' := by
    constructor
    · rintro rfl
      exact absurd starts (by decide)
    · rintro rfl
      exact absurd starts (by decide)
  rcases known with rfl | rfl | rfl
  · show readLedHead (sign :: text) = _
    simp [readLedHead, unled, read]
  · show readLedHead ('/' :: sign :: text) = _
    simp [readLedHead, read]
  · show readLedHead ('.' :: sign :: text) = _
    simp [readLedHead, read]

/-- A text after a parameter that stands for itself is one token, unless it is empty. -/
theorem readTokens_after {after : Text} (plain : IsPlain after) (position : Nat) :
    readTokens converters pattern after 0 position [] = .ok (literalBefore after []) := by
  have read : readTokens converters pattern (after ++ []) 0 position [] =
      readTokens converters pattern [] 0 (position + after.length) (after.reverse ++ []) :=
    readTokens_text plain (by simp) position []
  rw [List.append_nil, List.append_nil] at read
  rw [read, readTokens, List.reverse_reverse]

/-- A text that changes no parameter is no modifier. -/
theorem EndsName.readModifier_eq {text : Text} (ends : EndsName text) :
    readModifier text = (false, false, text) := by
  cases text with
  | nil => rfl
  | cons c text =>
    have other := (ends c rfl).2
    simp only [List.mem_cons, List.not_mem_nil, or_false, not_or] at other
    simp [readModifier, other]

end Reading

namespace Between

variable {between : Between} {own : Converters}

/-- The texts around the parameter stand for themselves, and the text before it does not end in a
lead that the parameter does not have. -/
structure IsReadable (between : Between) : Prop where
  before : IsPlain between.before
  lead : IsLead between.lead
  lone : between.lead = none → ∀ c ∈ between.before.getLast?, c ≠ '/' ∧ c ≠ '.'
  after : IsPlain between.after
  ends : EndsName between.after

/-- A pattern is cut into its tokens. -/
theorem IsReadable.tokenize_eq (readable : between.IsReadable) {sign : Char}
    (starts : sign ∈ headSigns) {text body : Text} {head : PlaceholderHead}
    (read : readHead (sign :: (text ++ between.after)) = some (head, body))
    (placed : ∀ pattern position, readPlaceholder (Converters.extended own) pattern between.lead
      head position body = .ok (between.placeholder, between.after)) :
    tokenize own (between.front ++ sign :: (text ++ between.after)) = .ok between.tokens := by
  have led := readLedHead_lead readable.lead starts read
  obtain ⟨c, taken, same, bare⟩ : ∃ c taken,
      between.lead.toList ++ sign :: (text ++ between.after) = c :: (taken ++ between.after) ∧
        c ≠ '\\' := by
    rcases readable.lead with none | slash | point
    · rw [none]
      refine ⟨sign, text, rfl, ?_⟩
      rintro rfl
      exact absurd starts (by decide)
    · rw [slash]
      exact ⟨'/', sign :: text, rfl, by decide⟩
    · rw [point]
      exact ⟨'.', sign :: text, rfl, by decide⟩
  rw [tokenize, front, List.append_assoc,
    readTokens_before readable.before readable.lead readable.lone]
  rw [same] at led ⊢
  rw [readTokens_placeholder bare led (placed _), readTokens_after readable.after]
  simp [Except.map, tokens]

/-- A pattern with a name after a colon is cut into its tokens. -/
theorem IsReadable.tokenize_colon (readable : between.IsReadable) (given : between.name ≠ [])
    (chars : ∀ c ∈ between.name, isNameChar c = true)
    (regex : between.regex = standardRegex between.lead)
    (converter : between.converter = standardConverter) :
    tokenize own (between.front ++ ':' :: (between.name ++ between.after)) =
      .ok between.tokens := by
  have stop : ∀ c ∈ between.after.head?, isNameChar c = false :=
    fun c found => (readable.ends c found).1
  have head := readHead_colon given chars stop
  refine readable.tokenize_eq (by decide) head fun pattern position => ?_
  have closed : (between.after.head? == some '(') = false := by
    rw [beq_eq_false_iff_ne]
    intro same
    exact (readable.ends '(' same).2 (by decide)
  simp only [readPlaceholder, closed, Bool.false_eq_true, if_false, pure_bind,
    readable.ends.readModifier_eq, placeholder, regex, converter]
  rfl

/-- A pattern with a name and a converter between braces is cut into its tokens. -/
theorem IsReadable.tokenize_braces (readable : between.IsReadable) (named : IsName between.name)
    (given : between.converter ≠ [])
    (chars : ∀ c ∈ between.converter, inBraceConverter c = true)
    (bare : Text.strip between.converter = between.converter)
    (known : ∀ pattern, converterRegex (Converters.extended own) pattern between.name
      between.converter = .ok between.regex) :
    tokenize own (between.front ++ '\x7b' :: (between.name ++ ':' :: (between.converter ++
      '\x7d' :: between.after))) = .ok between.tokens := by
  have head : readHead ('\x7b' :: (between.name ++ ':' :: (between.converter ++
      '\x7d' :: between.after))) =
        some (.braced between.name (some between.converter), between.after) := by
    rw [readHead, readBraced_converter named chars]
  have text : between.name ++ ':' :: (between.converter ++ '\x7d' :: between.after) =
      (between.name ++ ':' :: (between.converter ++ ['\x7d'])) ++ between.after := by simp
  rw [text] at head ⊢
  refine readable.tokenize_eq (by decide) head fun pattern position => ?_
  have full : between.name.isEmpty = false := by simpa using named.1
  obtain ⟨c, rest, same⟩ := List.exists_cons_of_ne_nil given
  have regex := known pattern
  rw [same] at regex bare
  simp only [readPlaceholder, readable.ends.readModifier_eq, IsName.strip_eq named, full,
    Bool.false_eq_true, if_false, same, bare, regex, placeholder]
  rfl

/-! ## Compiling -/

/-- The regular expression of the tokens. -/
theorem flatMap_source (between : Between) :
    between.tokens.flatMap PatternToken.source =
      escapeRegex between.front ++
        ('(' :: between.regex ++ [')'] ++ escapeRegex between.after) := by
  have group : between.placeholder.source =
      leadSource between.lead ++ ('(' :: between.regex ++ [')']) := rfl
  rw [tokens, source_literalBefore, List.flatMap_cons, source_literalBefore, PatternToken.source,
    group, front, escapeRegex_append]
  simp [leadSource]

/-- The key of the parameter is the only one. -/
theorem filterMap_key? (between : Between) :
    between.tokens.filterMap PatternToken.key? = [between.placeholder.key] := by
  rw [tokens, keys_literalBefore, List.filterMap_cons, keys_literalBefore]
  rfl

variable {options : Options} {body : Expr}

/-- The regular expression of a route is that of its texts and of the group, and of its end. -/
theorem routeSource_eq (options : Options) (last : between.after.getLast? ≠ some '/') :
    routeSource options between.tokens = escapeRegex between.front ++
      ('(' :: between.regex ++ [')'] ++ (escapeRegex between.after ++ tailSource options)) := by
  have source := between.flatMap_source
  have ending : (between.tokens.flatMap PatternToken.source).getLast? ≠ some '/' := by
    have group : ('(' :: between.regex ++ [')']).getLast? = some ')' := List.getLast?_concat ..
    rw [source, List.getLast?_append, List.getLast?_append, getLast?_escapeRegex, group]
    cases found : between.after.getLast? with
    | none => simp
    | some c =>
      rw [found] at last
      simpa using last
  have slash := beq_eq_false_iff_ne.2 ending
  rw [source] at slash
  simp only [routeSource, source, slash, tailSource]
  cases options.strict <;> cases options.whole <;> simp

/-- A pattern is compiled into its texts and one group between them. -/
theorem compilePattern_eq {pattern : Text}
    (cut : tokenize options.converters pattern = .ok between.tokens)
    (reads : Reads between.regex 0 fun _ => [body]) (bare : between.regex.head? ≠ some '?')
    (fixed : body.behindFixed = true) (last : between.after.getLast? ≠ some '/') :
    ∃ source, compilePattern options pattern =
      .ok ⟨between.program options source body, [between.placeholder.key]⟩ := by
  have front := Reads.start.append (Reads.literal between.front) (startsUnsigned_escapeRegex _)
  have group := reads.group bare
  have back := (Reads.literal between.after).append (reads_tail options)
    (startsUnsigned_tail options)
  have unsigned : StartsUnsigned (escapeRegex between.after ++ tailSource options) :=
    (startsUnsigned_escapeRegex _).append (startsUnsigned_tail options)
  have reading := front.append (group.append back unsigned) (by simp [StartsUnsigned])
  have whole : (between.expr options body).behindFixed = true := by
    rw [expr, behindFixed_sequence]
    simp [List.all_append, behindFixed_tailParts, fixed, Expr.behindFixed, behindFixed_sequence]
  have compiled : Program.compile ('^' :: routeSource options between.tokens) options.flags =
      .ok (between.program options ('^' :: routeSource options between.tokens) body) := by
    rw [routeSource_eq options last]
    exact compile_eq options.flags reading whole
  refine ⟨'^' :: routeSource options between.tokens, ?_⟩
  simp only [compilePattern, cut, filterMap_key?, Except.mapError, bind, Except.bind, compiled]
  rfl

end Between

end RoutePattern
