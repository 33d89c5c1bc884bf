import RoutePattern.Pattern.Compiled
import RoutePattern.Proofs.Delimiter

/-!
# Patterns of whole segments

Many patterns are rows of items each of which stands for whole segments of a path: a literal
segment, or a parameter of which each occurrence is one segment. Such a pattern is cut into the
tokens of its items, with neighbouring literals as one token (`tokenize_items`).
-/
namespace RoutePattern

/-- How many segments a parameter takes. -/
inductive Modifier where
  | once
  | optional
  | plus
  | star
  deriving Repr, DecidableEq

namespace Modifier

/-- The sign of a modifier. -/
def text : Modifier → Text
  | once => []
  | optional => ['?']
  | plus => ['+']
  | star => ['*']

/-- A parameter may take no segment. -/
def mayBeEmpty : Modifier → Bool
  | optional | star => true
  | once | plus => false

/-- A parameter may take more than one segment. -/
def mayRepeat : Modifier → Bool
  | plus | star => true
  | once | optional => false

end Modifier

/-- The name of a parameter: letters and digits of ASCII and low lines. -/
def IsName (name : Text) : Prop := name ≠ [] ∧ ∀ c ∈ name, c.isAlphanum = true ∨ c = '_'

/-- How a parameter is written, and what its segments are. -/
inductive ParameterKind where
  /-- A name after a colon. -/
  | colon (modifier : Modifier)
  /-- A name between braces. -/
  | braces (modifier : Modifier)
  /-- A name with the converter for integers. -/
  | integer
  deriving Repr, DecidableEq

namespace ParameterKind

/-- How many segments a parameter takes. -/
def modifier : ParameterKind → Modifier
  | colon modifier | braces modifier => modifier
  | integer => .once

/-- A segment of a parameter is a row of digits. -/
def isInteger : ParameterKind → Bool
  | integer => true
  | colon _ | braces _ => false

/-- The name of the converter of a parameter. -/
def converter (kind : ParameterKind) : Text :=
  if kind.isInteger then "int".toList else standardConverter

/-- The regular expression of one segment. -/
def regex (kind : ParameterKind) : Text :=
  if kind.isInteger then "\\d+".toList else "[^/]+?".toList

/-- A parameter as a pattern writes it. -/
def text (kind : ParameterKind) (name : Text) : Text :=
  match kind with
  | colon modifier => '/' :: ':' :: name ++ modifier.text
  | braces modifier => '/' :: '\x7b' :: name ++ '\x7d' :: modifier.text
  | integer => '/' :: '\x7b' :: name ++ [':', 'i', 'n', 't', '\x7d']

/-- What a parameter starts with after its slash. -/
def head (kind : ParameterKind) (name : Text) : PlaceholderHead :=
  match kind with
  | colon _ => .named name
  | braces _ => .braced name none
  | integer => .braced name (some ['i', 'n', 't'])

/-- The placeholder that a parameter is read as. -/
def placeholder (kind : ParameterKind) (name : Text) : Placeholder :=
  keyedPlaceholder (some '/') name kind.regex kind.converter kind.modifier.mayBeEmpty
    kind.modifier.mayRepeat

/-- What a parameter needs converters for is what the built-in ones say. -/
def Known (kind : ParameterKind) (converters : Converters) : Prop :=
  match kind with
  | colon _ => True
  | braces _ | integer => ∃ conversion, converters.get? kind.converter = some ⟨kind.regex, conversion⟩

/-- The names that are read as a whole: any row of word characters after a colon, and one of ASCII
between braces. -/
def Names (kind : ParameterKind) (name : Text) : Prop :=
  match kind with
  | colon _ => name ≠ [] ∧ ∀ c ∈ name, isNameChar c = true
  | braces _ | integer => IsName name

/-- The built-in converters know every parameter. -/
theorem known_builtin (kind : ParameterKind) : kind.Known (Converters.extended Table.empty) := by
  cases kind with
  | colon modifier => trivial
  | braces modifier => exact ⟨.text, rfl⟩
  | integer => exact ⟨.integer, rfl⟩

end ParameterKind

/-- An item of a pattern of whole segments. -/
inductive SegmentItem where
  | literal (text : Text)
  | parameter (kind : ParameterKind) (name : Text)
  deriving Repr, DecidableEq

/-- The characters that no literal item holds. -/
def literalBreaks : List Char := ['/', '\\', ':', '\x7b', '\x7d', '(', ')', '*', '\n']

/-- The characters that a placeholder starts with after its lead. -/
def headSigns : List Char := [':', '\x7b', '(', '*']

namespace SegmentItem

/-- An item as a pattern writes it. -/
def text : SegmentItem → Text
  | literal text => '/' :: text
  | parameter kind name => kind.text name

/-- A literal is not empty and holds none of the characters that break it; a parameter has a
name. -/
def WellFormed : SegmentItem → Prop
  | literal text => text ≠ [] ∧ ∀ c ∈ text, c ∉ literalBreaks
  | parameter _ name => IsName name

-- The characters of the text itself are checked, not all characters there are.
instance (name : Text) : Decidable (IsName name) :=
  @instDecidableAnd _ _ inferInstance (List.decidableBAll _ name)

instance : DecidablePred WellFormed
  | literal text => @instDecidableAnd _ _ inferInstance (List.decidableBAll (· ∉ literalBreaks) text)
  | parameter _ name => inferInstanceAs (Decidable (IsName name))

/-- A literal is not empty and holds none of the characters that break it; a parameter has a name
that is read as a whole. -/
def Readable : SegmentItem → Prop
  | literal text => text ≠ [] ∧ ∀ c ∈ text, c ∉ literalBreaks
  | parameter kind name => kind.Names name

/-- The converters know what a parameter needs. -/
def Known (converters : Converters) : SegmentItem → Prop
  | literal _ => True
  | parameter kind _ => kind.Known converters

/-- How many segments an item takes. -/
def modifier : SegmentItem → Modifier
  | literal _ => .once
  | parameter kind _ => kind.modifier

end SegmentItem

/-- The tokens of items after literal text: neighbouring literals are one token. -/
def itemTokens : (before : Text) → List SegmentItem → List PatternToken
  | before, [] => literalBefore before []
  | before, .literal text :: items => itemTokens (before ++ '/' :: text) items
  | before, .parameter kind name :: items =>
    literalBefore before (.placeholder (kind.placeholder name) :: itemTokens [] items)

/-! ## Reading items -/

/-- A text is at its end or at the start of a segment. -/
def AtSegment (text : Text) : Prop := text = [] ∨ ∃ rest, text = '/' :: rest

/-- Where a segment starts, no other character comes. -/
theorem AtSegment.head {text : Text} (here : AtSegment text) : ∀ c ∈ text.head?, c = '/' := by
  rcases here with rfl | ⟨rest, rfl⟩
  · simp
  · simp

/-- An item starts with a slash. -/
theorem SegmentItem.text_eq_cons (item : SegmentItem) : ∃ rest, item.text = '/' :: rest := by
  cases item with
  | literal text => exact ⟨_, rfl⟩
  | parameter kind name => cases kind <;> exact ⟨_, rfl⟩

/-- A row of items starts with a slash, unless there is none. -/
theorem atSegment_items (items : List SegmentItem) : AtSegment (items.flatMap SegmentItem.text) := by
  cases items with
  | nil => exact .inl rfl
  | cons item items =>
    obtain ⟨rest, slash⟩ := item.text_eq_cons
    exact .inr ⟨_, by rw [List.flatMap_cons, slash, List.cons_append]⟩

/-- The modifier in front of a segment is read. -/
theorem readModifier_text (modifier : Modifier) {rest : Text} (here : AtSegment rest) :
    readModifier (modifier.text ++ rest) = (modifier.mayBeEmpty, modifier.mayRepeat, rest) := by
  rcases here with rfl | ⟨rest, rfl⟩
  · cases modifier <;> rfl
  · cases modifier <;> rfl

/-- A letter of a name is a character of ASCII. -/
theorem IsName.ascii {name : Text} (named : IsName name) {c : Char} (found : c ∈ name) :
    c.toNat < 128 := by
  rcases named.2 c found with alphanum | rfl
  · exact Text.toNat_lt_of_isAlphanum alphanum
  · decide

/-- What holds for letters and digits of ASCII and for low lines holds in a name. -/
theorem IsName.forall {name : Text} (named : IsName name) (holds : Char → Prop)
    (all : ∀ code < 128, (Char.ofNat code).isAlphanum = true ∨ Char.ofNat code = '_' →
      holds (Char.ofNat code)) :
    ∀ c ∈ name, holds c := by
  intro c found
  exact Text.ascii_forall (fun c => c.isAlphanum = true ∨ c = '_' → holds c) all
    (named.ascii found) (named.2 c found)

/-- A letter of a name may stand in a name after a colon. -/
theorem IsName.chars {name : Text} (named : IsName name) : ∀ c ∈ name, isNameChar c = true :=
  named.forall (isNameChar · = true) (by decide)

/-- A letter of a name may stand in a name between braces. -/
theorem IsName.inBrace {name : Text} (named : IsName name) : ∀ c ∈ name, inBraceName c = true :=
  named.forall (inBraceName · = true) (by decide)

/-- Names of ASCII are read as a whole after a colon, too. -/
theorem IsName.names {name : Text} (named : IsName name) (kind : ParameterKind) :
    kind.Names name := by
  cases kind with
  | colon modifier => exact ⟨named.1, named.chars⟩
  | braces modifier => exact named
  | integer => exact named

/-- Well-formed items are read as a whole. -/
theorem SegmentItem.WellFormed.readable {item : SegmentItem} (wellFormed : item.WellFormed) :
    item.Readable := by
  cases item with
  | literal text => exact wellFormed
  | parameter kind name => exact IsName.names wellFormed kind

/-- No blank stands in a name. -/
theorem IsName.strip_eq {name : Text} (named : IsName name) : Text.strip name = name := by
  have full (text : Text) (same : ∀ c, c ∈ text → c ∈ name) :
      text.dropWhile Text.isBlank = text := by
    cases text with
    | nil => rfl
    | cons c text =>
      have solid : Text.isBlank c = false :=
        named.forall (Text.isBlank · = false) (by decide) c (same c (List.mem_cons_self ..))
      simp [solid]
  rw [Text.strip, Text.trim, full name (fun _ found => found),
    full name.reverse (fun _ found => List.mem_reverse.1 found), List.reverse_reverse]

/-! ## Tokens -/

section Tokens

variable {converters : Converters} {pattern : Text}

/-- What a token holds besides its first character is passed over. -/
theorem readTokens_skip (text rest : Text) (position : Nat) (literal : Text) :
    readTokens converters pattern (text ++ rest) text.length position literal =
      readTokens converters pattern rest 0 (position + text.length) literal := by
  induction text generalizing position with
  | nil => rfl
  | cons c text ih =>
    rw [List.cons_append, List.length_cons, readTokens, ih]
    congr 1
    omega

/-- A character at which no placeholder starts stands for itself. -/
theorem readTokens_headless {c : Char} {rest : Text} (plain : c ∉ ['\\', ')'])
    (headless : readLedHead (c :: rest) = none) (position : Nat) (literal : Text) :
    readTokens converters pattern (c :: rest) 0 position literal =
      readTokens converters pattern rest 0 (position + 1) (c :: literal) := by
  simp only [List.mem_cons, List.not_mem_nil, or_false, not_or] at plain
  rw [readTokens]
  · rw [headless]
    simp [plain.2]
  · simp [plain.1]

/-- A character that starts no placeholder, in front of one that starts none, stands for itself. -/
theorem readTokens_plain {c : Char} {rest : Text} (plain : c ∉ ['\\', ')'])
    (here : c ∉ headSigns) (next : ∀ d ∈ rest.head?, d ∉ headSigns) (position : Nat)
    (literal : Text) :
    readTokens converters pattern (c :: rest) 0 position literal =
      readTokens converters pattern rest 0 (position + 1) (c :: literal) := by
  have headless (d : Char) (text : Text) (free : d ∉ headSigns) : readHead (d :: text) = none := by
    simp only [headSigns, List.mem_cons, List.not_mem_nil, or_false, not_or] at free
    simp [readHead, free]
  have noHead : readHead rest = none := by
    cases rest with
    | nil => rfl
    | cons d rest => exact headless d rest (next d rfl)
  have unled : readLedHead (c :: rest) = none := by
    simp only [readLedHead, noHead, headless c rest here]
    simp
  exact readTokens_headless plain unled position literal

/-- Characters that start no placeholder stand for themselves. -/
theorem readTokens_text {text rest : Text} (plain : ∀ c ∈ text, c ∉ ['\\', ')'] ∧ c ∉ headSigns)
    (next : ∀ d ∈ rest.head?, d ∉ headSigns) (position : Nat) (literal : Text) :
    readTokens converters pattern (text ++ rest) 0 position literal =
      readTokens converters pattern rest 0 (position + text.length) (text.reverse ++ literal) := by
  induction text generalizing position literal with
  | nil => rfl
  | cons c text ih =>
    have later : ∀ d ∈ (text ++ rest).head?, d ∉ headSigns := by
      cases text with
      | nil => exact next
      | cons d text =>
        intro e found
        obtain rfl : d = e := by simpa using found
        exact (plain d (by simp)).2
    rw [List.cons_append, readTokens_plain (plain c (by simp)).1 (plain c (by simp)).2 later,
      ih fun d found => plain d (List.mem_cons_of_mem _ found)]
    simp [Nat.add_assoc, Nat.add_comm 1]

/-- A placeholder is one token, after the literal text before it. -/
theorem readTokens_placeholder {c : Char} (bare : c ≠ '\\') {taken rest body : Text}
    {lead : Option Char} {head : PlaceholderHead} {placeholder : Placeholder}
    (led : readLedHead (c :: (taken ++ rest)) = some (lead, head, body))
    (read : ∀ position, readPlaceholder converters pattern lead head position body =
      .ok (placeholder, rest)) (position : Nat) (literal : Text) :
    readTokens converters pattern (c :: (taken ++ rest)) 0 position literal =
      (readTokens converters pattern rest 0 (position + 1 + taken.length) []).map fun tokens =>
        literalBefore literal.reverse (.placeholder placeholder :: tokens) := by
  have skipped : readTokens converters pattern (taken ++ rest)
        ((taken ++ rest).length - rest.length) (position + 1) [] =
      readTokens converters pattern rest 0 (position + 1 + taken.length) [] := by
    rw [List.length_append, Nat.add_sub_cancel, readTokens_skip]
  rw [readTokens]
  · simp only [led, read]
    rw [← skipped]
    rfl
  · simp [bare]

/-- A name after a colon is read up to the next segment. -/
theorem readHead_colon {name rest : Text} (given : name ≠ [])
    (chars : ∀ c ∈ name, isNameChar c = true) (stop : ∀ c ∈ rest.head?, isNameChar c = false) :
    readHead (':' :: (name ++ rest)) = some (.named name, rest) := by
  have cut := Text.span_append chars stop
  obtain ⟨c, letters, rfl⟩ := List.exists_cons_of_ne_nil given
  simp only [readHead]
  rw [cut]

/-- A name between braces is read up to the closing brace. -/
theorem readBraced_name {name : Text} (named : IsName name) (rest : Text) :
    readBraced (name ++ '\x7d' :: rest) = some (.braced name none, rest) := by
  have stop : ∀ c ∈ ('\x7d' :: rest).head?, inBraceName c = false := by simp [inBraceName]
  rw [readBraced, Text.span_append named.inBrace stop]
  rfl

/-- A name between braces is read up to the colon, and its converter up to the closing brace. -/
theorem readBraced_converter {name converter : Text} (named : IsName name)
    (plain : ∀ c ∈ converter, inBraceConverter c = true) (rest : Text) :
    readBraced (name ++ ':' :: (converter ++ '\x7d' :: rest)) =
      some (.braced name (some converter), rest) := by
  have stop : ∀ c ∈ (':' :: (converter ++ '\x7d' :: rest)).head?, inBraceName c = false := by
    simp [inBraceName]
  have close : ∀ c ∈ ('\x7d' :: rest).head?, inBraceConverter c = false := by
    simp [inBraceConverter]
  rw [readBraced, Text.span_append named.inBrace stop]
  simp only
  rw [Text.span_append plain close]
  rfl

/-- The head of a parameter is read with the slash in front of it. -/
theorem readLedHead_parameter (kind : ParameterKind) {name rest : Text} (named : kind.Names name)
    (here : AtSegment rest) :
    readLedHead (kind.text name ++ rest) =
      some (some '/', kind.head name, kind.modifier.text ++ rest) := by
  have led (text : Text) : readLedHead ('/' :: text) =
      (readHead text).map fun read => (some '/', read.1, read.2) := rfl
  cases kind with
  | colon modifier =>
    have stop : ∀ c ∈ (modifier.text ++ rest).head?, isNameChar c = false := by
      intro c found
      rcases here with rfl | ⟨rest, rfl⟩
      · cases modifier <;> simp [Modifier.text] at found <;> subst found <;> decide
      · cases modifier <;> simp [Modifier.text] at found <;> subst found <;> decide
    simp only [ParameterKind.text, List.cons_append, List.append_assoc]
    rw [led, readHead_colon named.1 named.2 stop]
    rfl
  | braces modifier =>
    simp only [ParameterKind.text, List.cons_append, List.append_assoc]
    rw [led, readHead, readBraced_name named]
    rfl
  | integer =>
    have plain : ∀ c ∈ ['i', 'n', 't'], inBraceConverter c = true := by simp [inBraceConverter]
    have written : ParameterKind.integer.text name ++ rest =
        '/' :: '\x7b' :: (name ++ ':' :: (['i', 'n', 't'] ++ '\x7d' :: rest)) := by
      simp [ParameterKind.text]
    rw [written, led, readHead, readBraced_converter named plain]
    rfl

/-- The regular expression of a known converter has no group to change. -/
theorem converterRegex_known {kind : ParameterKind} {conversion : Conversion} (pattern name : Text)
    (found : converters.get? kind.converter = some ⟨kind.regex, conversion⟩) :
    converterRegex converters pattern name kind.converter = .ok kind.regex := by
  have plain : nonCapturing kind.regex = kind.regex := by
    rw [ParameterKind.regex]
    cases kind.isInteger <;> decide
  simp only [converterRegex, found, plain]

/-- The rest of a parameter is read up to the next segment. -/
theorem readPlaceholder_parameter (kind : ParameterKind) {name rest : Text} (named : kind.Names name)
    (known : kind.Known converters) (here : AtSegment rest) (position : Nat) :
    readPlaceholder converters pattern (some '/') (kind.head name) position
        (kind.modifier.text ++ rest) =
      .ok (kind.placeholder name, rest) := by
  have modified := readModifier_text kind.modifier here
  cases kind with
  -- No parenthesis follows, so the parameter has no regular expression of its own.
  | colon modifier =>
    have closed : ((modifier.text ++ rest).head? == some '(') = false := by
      rcases here with rfl | ⟨rest, rfl⟩
      · cases modifier <;> rfl
      · cases modifier <;> rfl
    simp only [ParameterKind.head, ParameterKind.modifier, readPlaceholder, closed,
      Bool.false_eq_true, if_false, pure_bind] at modified ⊢
    rw [modified]
    rfl
  | braces modifier =>
    obtain ⟨conversion, found⟩ := known
    have given : name.isEmpty = false := by simpa using named.1
    have regex := converterRegex_known pattern name found
    simp only [ParameterKind.head, ParameterKind.modifier, readPlaceholder] at modified ⊢
    simp only [modified, IsName.strip_eq named, given, Bool.false_eq_true, if_false]
    rw [show standardConverter = (ParameterKind.braces modifier).converter from rfl, regex]
    rfl
  | integer =>
    obtain ⟨conversion, found⟩ := known
    have given : name.isEmpty = false := by simpa using named.1
    have regex := converterRegex_known pattern name found
    simp only [ParameterKind.head, ParameterKind.modifier, readPlaceholder] at modified ⊢
    simp only [modified, IsName.strip_eq named, given, Bool.false_eq_true, if_false]
    rw [show Text.strip ['i', 'n', 't'] = ParameterKind.integer.converter by decide, regex]
    rfl

/-- A parameter in front of a segment is one token, after the literal text before it. -/
theorem readTokens_parameter (kind : ParameterKind) {name rest : Text} (named : kind.Names name)
    (known : kind.Known converters) (here : AtSegment rest) (position : Nat) (literal : Text) :
    readTokens converters pattern (kind.text name ++ rest) 0 position literal =
      (readTokens converters pattern rest 0 (position + (kind.text name).length) []).map
        fun tokens =>
          literalBefore literal.reverse (.placeholder (kind.placeholder name) :: tokens) := by
  have led := readLedHead_parameter kind named here
  obtain ⟨tail, slash⟩ := (SegmentItem.parameter kind name).text_eq_cons
  rw [SegmentItem.text] at slash
  have length : position + ('/' :: tail).length = position + 1 + tail.length := by
    rw [List.length_cons]
    omega
  rw [slash, List.cons_append] at led ⊢
  rw [length]
  exact readTokens_placeholder (by decide) led
    (readPlaceholder_parameter kind named known here) position literal

/-- A literal in front of a segment joins the literal text before it. -/
theorem readTokens_literal {text rest : Text} (readable : (SegmentItem.literal text).Readable)
    (here : AtSegment rest) (position : Nat) (literal : Text) :
    readTokens converters pattern ('/' :: text ++ rest) 0 position literal =
      readTokens converters pattern rest 0 (position + (text.length + 1))
        (text.reverse ++ '/' :: literal) := by
  have signs : ∀ c, c ∉ literalBreaks → c ∉ ['\\', ')'] ∧ c ∉ headSigns := by
    intro c free
    simp only [literalBreaks, headSigns, List.mem_cons, List.not_mem_nil, or_false, not_or] at free ⊢
    simp only [free, not_false_eq_true, and_self]
  have plain : ∀ c ∈ '/' :: text, c ∉ ['\\', ')'] ∧ c ∉ headSigns := by
    intro c found
    rcases List.mem_cons.1 found with rfl | found
    · decide
    · exact signs c (readable.2 c found)
  have next : ∀ d ∈ rest.head?, d ∉ headSigns := by
    intro d found
    rw [here.head d found]
    decide
  rw [readTokens_text plain next]
  simp

/-- A row of items is cut into its tokens, after the literal text before it. -/
theorem readTokens_items {items : List SegmentItem} (readable : ∀ item ∈ items, item.Readable)
    (known : ∀ item ∈ items, item.Known converters) (position : Nat) (literal : Text) :
    readTokens converters pattern (items.flatMap SegmentItem.text) 0 position literal =
      .ok (itemTokens literal.reverse items) := by
  induction items generalizing position literal with
  | nil => rfl
  | cons item items ih =>
    have later := ih (fun item found => readable item (List.mem_cons_of_mem _ found))
      fun item found => known item (List.mem_cons_of_mem _ found)
    have first := readable item (List.mem_cons_self ..)
    have here := atSegment_items items
    rw [List.flatMap_cons]
    cases item with
    | literal text =>
      rw [SegmentItem.text, readTokens_literal first here, later]
      simp [itemTokens]
    | parameter kind name =>
      rw [SegmentItem.text, readTokens_parameter kind first (known _ (List.mem_cons_self ..)) here,
        later]
      rfl

end Tokens

/-- A pattern of whole segments is cut into the tokens of its items. -/
theorem tokenize_items {items : List SegmentItem} {own : Converters}
    (readable : ∀ item ∈ items, item.Readable)
    (known : ∀ item ∈ items, item.Known (Converters.extended own)) :
    tokenize own (items.flatMap SegmentItem.text) = .ok (itemTokens [] items) :=
  readTokens_items readable known 0 []

end RoutePattern
