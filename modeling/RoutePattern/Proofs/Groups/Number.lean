import RoutePattern.Proofs.Decimals
import RoutePattern.Proofs.Groups.Segment
import RoutePattern.Proofs.Language.Taken

/-!
# Parameters that are numbers

The group of a placeholder captures a text of the language that its regular expression has
(`fits_of_reads`). So a parameter that is read as an integer or as a fraction captures digits, with
at most one point among those of a fraction. If it may be repeated, it captures all repetitions
together, with the lead of the parameter between them (`NumberKind.fits_captured`).
-/
namespace RoutePattern

open Regex
open Regex.Reader (Reads)
open Regex.Scan (Captures)
open Decimal

/-! ## What a group captures -/

/-- A group whose body is regular leaves behind a text of the body's language, and no other group
touches it. -/
theorem upholds_regular {text : Text} {fits : Text → Prop} {number : Nat} (positive : 0 < number)
    {body expr : Expr} (regular : body.isRegular = true) (free : body.groupCount = 0)
    (all : ∀ flags, ∀ taken ∈ body.language flags, fits taken)
    (each : expr.EachGroup fun index inner => 0 < index ∧ (index = number → inner = body))
    (flags : Flags) (lead : Lead) :
    (expr.matcher flags lead).Upholds text (Fits text fits number) := by
  refine Expr.upholds_matcher (fun index inner flags own upholds => ?_) each flags lead
  by_cases same : index = number
  · rw [own.2 same, same]
    exact (Expr.takes regular free flags .undecided).upholds_group (all flags) number
  · have first := own.1
    exact Matcher.Upholds.group upholds (by omega)

/-- A placeholder whose regular expression is read by itself as a regular one captures a text of its
language. -/
theorem fits_of_reads {options : Options} {tokens : List PatternToken} {program : Program}
    (compilation : Program.compile (patternSource options tokens) options.flags = .ok program)
    {index number : Nat} {placeholder : Placeholder} {places : Nat × Nat}
    (own : (placeholders tokens)[index]? = some placeholder)
    (place : (groupPlaces 1 tokens)[index]? = some places)
    (captures : Captures (patternSource options tokens) options.flags number places)
    {parts : List Expr} (reads : Reads placeholder.captureSource 0 fun _ => parts)
    (bare : placeholder.captureSource.head? ≠ some '?')
    (regular : (Expr.sequence parts).isRegular = true)
    (free : (Expr.sequence parts).groupCount = 0) {fits : Text → Prop}
    (all : ∀ flags, ∀ taken ∈ (Expr.sequence parts).language flags, fits taken)
    {before after : Text} {found : Match} {captured : Text}
    (matching : program.matchFrom before after = some found)
    (taken : found.captures[number - 1]? = some (some captured)) : fits captured := by
  obtain ⟨position, rest, positive, rfl, cut⟩ := exists_drop_patternSource options own place
  obtain ⟨final, reaches, done⟩ := exists_final_of_compile compilation
  obtain ⟨numbered, guards⟩ :=
    Captures.guards captures cut positive reads bare free reaches done
  have each := (guards.closed _ (List.mem_cons_self ..)).parts.sequence
  have expr : program.expr = .sequence final.reader.frame.parts :=
    (compile_of_final compilation reaches done).expr
  rw [← expr] at each
  exact captured_of_upholds
    (upholds_regular numbered regular free all each program.flags .undecided) matching taken

/-! ## Languages -/

/-- The texts of characters as asked for. -/
def textsOf (holds : Char → Prop) : Language Char := {text | ∀ c ∈ text, holds c}

section Texts

variable {holds : Char → Prop} {one two language : Language Char}

/-- One such text after the other. -/
theorem mul_le_textsOf (first : one ≤ textsOf holds) (second : two ≤ textsOf holds) :
    one * two ≤ textsOf holds := by
  intro text found
  obtain ⟨taken, member, rest, member', rfl⟩ := Language.mem_mul.1 found
  exact List.forall_mem_append.2 ⟨first member, second member'⟩

/-- Such texts repeated. -/
theorem times_le_textsOf (each : language ≤ textsOf holds) (least : Nat) (most : Option Nat) :
    times language least most ≤ textsOf holds := by
  have power (count : Nat) : language ^ count ≤ textsOf holds := by
    induction count with
    | zero =>
      intro text found
      obtain rfl := (Language.mem_one text).1 found
      exact List.forall_mem_nil _
    | succ count ih =>
      rw [pow_succ]
      exact mul_le_textsOf ih each
  rintro text ⟨count, -, -, found⟩
  exact power count found

/-- A row of parts takes such texts if each part does. -/
theorem sequence_le_textsOf {flags : Flags} {parts : List Expr}
    (each : ∀ part ∈ parts, part.language flags ≤ textsOf holds) :
    (Expr.sequence parts).language flags ≤ textsOf holds := by
  induction parts with
  | nil =>
    intro text found
    obtain rfl := (Language.mem_one text).1 found
    exact List.forall_mem_nil _
  | cons part parts ih =>
    obtain ⟨first, later⟩ := List.forall_mem_cons.1 each
    exact mul_le_textsOf first (ih later)

end Texts

/-- A digit or a mark. -/
def InNumber (c : Char) : Prop := anyDigit c = true ∨ isMark c = true

/-- More digits and marks after a divided text. -/
theorem Decimal.Divided.append {text rest : Text} (divided : Divided anyDigit text)
    (each : ∀ c ∈ rest, InNumber c) : Divided anyDigit (text ++ rest) := by
  refine ⟨?_, List.forall_mem_append.2 ⟨divided.each, each⟩⟩
  cases text with
  | nil => exact absurd divided.starts (by simp)
  | cons c text => exact divided.starts

/-- A digit of ASCII is a digit. -/
theorem isDigit_of_isAsciiDigit {code : Nat} (digit : Unicode.isAsciiDigit code = true) :
    Unicode.isDigit code = true := by
  have table : ∀ code < 128, Unicode.isAsciiDigit code = true → Unicode.isDigit code = true := by
    decide
  have bounds := digit
  rw [Unicode.isAsciiDigit, Bool.and_eq_true, decide_eq_true_eq, decide_eq_true_eq] at bounds
  exact table code (by omega) digit

/-- What a set of digits holds for is a digit, whatever the flags. -/
theorem anyDigit_of_setHolds {flags : Flags} {c : Char}
    (holds : setHolds flags false [.category .digit false] c.toNat = true) : anyDigit c = true := by
  have digit {code : Nat} (holds : Category.digit.holds flags.ascii code = true) :
      Unicode.isDigit code = true := by
    cases ascii : flags.ascii with
    | false => rwa [ascii] at holds
    | true =>
      rw [ascii] at holds
      exact isDigit_of_isAsciiDigit holds
  cases ignored : flags.ignoreCase with
  | false => exact digit (by simpa [setHolds, ignored, SetItem.holds] using holds)
  | true =>
    have lower : Unicode.isDigit (lowerCode flags c.toNat) = true :=
      digit (by simpa [setHolds, ignored, SetItem.holdsIgnoringCase] using holds)
    unfold lowerCode at lower
    split at lower
    · unfold Unicode.asciiLower at lower
      split at lower
      · next capital =>
        simp only [Bool.and_eq_true, decide_eq_true_eq] at capital
        have none : ∀ code < 123, 97 ≤ code → Unicode.isDigit code = false := by decide
        rw [none _ (by omega) (by omega)] at lower
        exact absurd lower Bool.false_ne_true
      · exact lower
    · exact Unicode.isDigit_of_toLower lower

/-- A row of digits takes digits, and at least one of them. -/
theorem digits_of_mem {flags : Flags} {text : Text}
    (found : text ∈ Reader.digitsExpr.language flags) :
    text ≠ [] ∧ ∀ c ∈ text, anyDigit c = true := by
  rw [Reader.digitsExpr, Expr.language, Expr.language_sequence_singleton, Expr.language] at found
  obtain ⟨count, some, -, power⟩ := found
  obtain ⟨rfl, each⟩ := mem_letters_pow.1 power
  exact ⟨List.ne_nil_of_length_pos some, fun c member => anyDigit_of_setHolds (each c member)⟩

/-- A row of digits is a divided text. -/
theorem divided_of_digits {text : Text} (given : text ≠ []) (all : ∀ c ∈ text, anyDigit c = true) :
    Divided anyDigit text := by
  refine ⟨?_, fun c found => .inl (all c found)⟩
  obtain ⟨c, rest, rfl⟩ := List.exists_cons_of_ne_nil given
  exact all c (List.mem_cons_self ..)

/-- A point or a slash stands for itself, whatever the flags. -/
theorem eq_of_mem_mark {flags : Flags} {c : Char} (mark : isMark c = true) {text : Text}
    (found : text ∈ (Expr.char c.toNat).language flags) : text = [c] := by
  obtain ⟨d, accepted, rfl⟩ := found
  have same : sameCode flags c.toNat d.toNat = true := accepted
  have caseless : caseMatters flags c.toNat = false := by
    rcases isMark_iff.1 mark with rfl | rfl
    all_goals
      unfold caseMatters
      rw [Bool.and_eq_false_iff]
      right
      split <;> decide
  rw [sameCode_of_caseless (.inl caseless), beq_iff_eq] at same
  rw [Char.toNat_inj.1 same]

/-! ## Kinds of numbers -/

/-- The kinds of numbers that the built-in converters read. -/
inductive NumberKind where
  | integer
  | fraction
  deriving Repr, DecidableEq

namespace NumberKind

/-- The name of the converter. -/
def converter : NumberKind → Text
  | integer => "int".toList
  | fraction => "float".toList

/-- The regular expression of one number. -/
def source : NumberKind → Text
  | integer => "\\d+".toList
  | fraction => "\\d+(?:\\.\\d+)?".toList

/-- The points and digits after the first digits of a fraction. -/
def fractionalPart : Expr :=
  .loop 0 (some 1) .greedy (.sequence [.char '.'.toNat, Reader.digitsExpr])

/-- The parts that one number is read as. -/
def parts : NumberKind → List Expr
  | integer => [Reader.digitsExpr]
  | fraction => [Reader.digitsExpr, fractionalPart]

/-- What the group of a parameter holds whose values are such numbers. -/
def captured (kind : NumberKind) (lead : Option Char) (repeated : Bool) : List Expr :=
  if repeated then
    kind.parts ++ [.loop 0 none .greedy
      (.sequence (lead.toList.map (fun c => .char c.toNat) ++ kind.parts))]
  else kind.parts

/-- A text that the parameter takes at once: digits, and for a fraction at most one point among
them. -/
structure Takes (kind : NumberKind) (text : Text) : Prop where
  divided : Divided anyDigit text
  slashless : '/' ∉ text
  points : text.count '.' ≤ match kind with
    | integer => 0
    | fraction => 1

/-- One number is read as its parts. -/
theorem reads_source (kind : NumberKind) : Reads kind.source 0 fun _ => kind.parts := by
  cases kind with
  | integer => exact Reads.digits
  | fraction =>
    have point := (Reads.literal ['.']).append Reads.digits (by decide)
    exact Reads.digits.append (point.repeated (.inl ⟨rfl, rfl⟩)) (by decide)

/-- What the group of a parameter holds is read as its parts. -/
theorem reads_captured (kind : NumberKind) {placeholder : Placeholder}
    (regex : placeholder.regex = kind.source) :
    Reads placeholder.captureSource 0 fun _ =>
      kind.captured placeholder.lead placeholder.repeated := by
  have unsigned : StartsUnsigned kind.source := by cases kind <;> decide
  unfold Placeholder.captureSource captured
  rw [regex]
  split
  · have again := ((Reads.lead placeholder.lead).append kind.reads_source unsigned).repeated
      (.inr ⟨rfl, rfl⟩)
    have several := kind.reads_source.append again (by simp [StartsUnsigned])
    simpa using several
  · exact kind.reads_source

/-- What the group of a parameter holds is regular. -/
theorem isRegular_captured (kind : NumberKind) (lead : Option Char) (repeated : Bool) :
    (Expr.sequence (kind.captured lead repeated)).isRegular = true ∧
      (Expr.sequence (kind.captured lead repeated)).groupCount = 0 := by
  cases kind <;> cases lead <;> cases repeated <;> exact ⟨rfl, rfl⟩

/-- What comes after the first digits of a fraction is nothing, or a point and digits. -/
theorem exists_of_mem_fractionalPart {flags : Flags} {text : Text}
    (found : text ∈ fractionalPart.language flags) :
    text = [] ∨ ∃ later, text = '.' :: later ∧ ∀ c ∈ later, anyDigit c = true := by
  rw [fractionalPart, Expr.language, times_zero_one] at found
  rcases (Language.mem_add _ _ _).1 found with empty | some
  · exact .inl ((Language.mem_one text).1 empty)
  · obtain ⟨point, here, later, there, rfl⟩ := Language.mem_mul.1 some
    obtain rfl := eq_of_mem_mark (c := '.') rfl here
    exact .inr ⟨later, rfl, (digits_of_mem (by simpa [Expr.language] using there)).2⟩

/-- One number is taken at once. -/
theorem takes_of_mem (kind : NumberKind) {flags : Flags} {text : Text}
    (found : text ∈ (Expr.sequence kind.parts).language flags) : kind.Takes text := by
  have absent {c : Char} (mark : isMark c = true) {text : Text}
      (all : ∀ c ∈ text, anyDigit c = true) : c ∉ text := fun member =>
    absurd ((anyDigit_of_isMark mark).1.symm.trans (all c member)) Bool.false_ne_true
  cases kind with
  | integer =>
    obtain ⟨given, all⟩ := digits_of_mem (by simpa [parts] using found)
    exact ⟨divided_of_digits given all, absent rfl all,
      (List.count_eq_zero.2 (absent rfl all)).le⟩
  -- The one point that may be taken stands between two rows of digits.
  | fraction =>
    obtain ⟨digits, first, rest, second, rfl⟩ := Language.mem_mul.1 found
    obtain ⟨given, all⟩ := digits_of_mem first
    have divided := divided_of_digits given all
    have free := absent (c := '/') rfl all
    have none := List.count_eq_zero.2 (absent (c := '.') rfl all)
    rcases exists_of_mem_fractionalPart (by simpa [Expr.language] using second) with
      rfl | ⟨later, rfl, all'⟩
    · rw [List.append_nil]
      exact ⟨divided, free, by omega⟩
    · have none' := List.count_eq_zero.2 (absent (c := '.') rfl all')
      have more : ∀ c ∈ '.' :: later, InNumber c :=
        List.forall_mem_cons.2 ⟨.inr rfl, fun c found => .inl (all' c found)⟩
      refine ⟨divided.append more, ?_, ?_⟩
      · have free' := absent (c := '/') rfl all'
        simp [free, free']
      · rw [List.count_append, List.count_cons_self, none, none']

/-- Repeated numbers are a divided text. -/
theorem divided_of_mem (kind : NumberKind) {lead : Option Char} (known : IsLead lead)
    {repeated : Bool} {flags : Flags} {text : Text}
    (found : text ∈ (Expr.sequence (kind.captured lead repeated)).language flags) :
    Divided anyDigit text := by
  have once : (Expr.sequence kind.parts).language flags ≤ textsOf InNumber :=
    fun text found => (kind.takes_of_mem found).divided.each
  unfold captured at found
  split at found
  · rw [Expr.language_sequence_append, Expr.language_sequence_singleton] at found
    obtain ⟨first, here, rest, there, rfl⟩ := Language.mem_mul.1 found
    refine (kind.takes_of_mem here).divided.append ?_
    have leads : (Expr.sequence (lead.toList.map fun c => .char c.toNat)).language flags ≤
        textsOf InNumber := by
      refine sequence_le_textsOf fun part found => ?_
      obtain ⟨c, given, rfl⟩ := List.mem_map.1 found
      have mark : isMark c = true := by
        rcases known with rfl | rfl | rfl
        · exact absurd given List.not_mem_nil
        · exact List.mem_singleton.1 given ▸ rfl
        · exact List.mem_singleton.1 given ▸ rfl
      intro text taken
      rw [eq_of_mem_mark mark taken]
      exact List.forall_mem_singleton.2 (.inr mark)
    rw [Expr.language, Expr.language_sequence_append] at there
    exact times_le_textsOf (mul_le_textsOf leads once) 0 none there
  · exact (kind.takes_of_mem found).divided

end NumberKind

/-- A parameter that is read as a number captures a divided text, and one number at once unless it
may be repeated. -/
theorem NumberKind.fits_captured (kind : NumberKind) {options : Options}
    {tokens : List PatternToken} {program : Program}
    (compilation : Program.compile (patternSource options tokens) options.flags = .ok program)
    {index number : Nat} {placeholder : Placeholder} {places : Nat × Nat}
    (own : (placeholders tokens)[index]? = some placeholder) (known : IsLead placeholder.lead)
    (regex : placeholder.regex = kind.source)
    (place : (groupPlaces 1 tokens)[index]? = some places)
    (captures : Captures (patternSource options tokens) options.flags number places)
    {before after : Text} {found : Match} {captured : Text}
    (matching : program.matchFrom before after = some found)
    (taken : found.captures[number - 1]? = some (some captured)) :
    Divided anyDigit captured ∧ (placeholder.repeated = false → kind.Takes captured) := by
  obtain ⟨regular, free⟩ := kind.isRegular_captured placeholder.lead placeholder.repeated
  have bare : placeholder.captureSource.head? ≠ some '?' := by
    obtain ⟨rest, cut⟩ : ∃ rest, kind.source = '\\' :: rest := by cases kind <;> exact ⟨_, rfl⟩
    rw [Placeholder.captureSource, regex, cut]
    cases placeholder.repeated <;> simp
  have fits : ∀ flags, ∀ text ∈ (Expr.sequence
      (kind.captured placeholder.lead placeholder.repeated)).language flags,
      Divided anyDigit text ∧ (placeholder.repeated = false → kind.Takes text) := by
    intro flags text found
    refine ⟨kind.divided_of_mem known found, fun single => ?_⟩
    rw [single] at found
    exact kind.takes_of_mem found
  exact fits_of_reads compilation own place captures (kind.reads_captured regex) bare regular free
    fits matching taken

end RoutePattern
