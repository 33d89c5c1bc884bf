import RoutePattern.Proofs.Loosening.Library
import RoutePattern.Proofs.Groups.Segment

/-!
# What a pattern without regular expressions of its own is read as

The library puts the expression of such a pattern together from few kinds of parts. What holds of
these and of the literal characters of the pattern holds of the whole (`ReadsAs.patternSource`).
-/
namespace RoutePattern

open Regex
open Regex.Reader (Reads)
open Regex.Scan (facing)

/-- A kind of expressions that whatever the library puts together is of. -/
structure Regex.Expr.Hereditary (kind : Expr → Prop) : Prop where
  char {c : Char} (caseless : Unicode.hasCase c.toNat = false) : kind (.char c.toNat)
  notChar {c : Char} (caseless : Unicode.hasCase c.toNat = false) : kind (.notChar c.toNat)
  any : kind .any
  digit : kind (.set false [.category .digit false])
  anchor (place : Anchor) : kind (.anchor place)
  textEnd : kind (.ahead false (.sequence [.anchor .lineEnd]))
  segmentEnd : kind Reader.segmentEndExpr
  sequence {parts : List Expr} (each : ∀ part ∈ parts, kind part) : kind (.sequence parts)
  group {index : Nat} {body : Expr} (inner : kind body) : kind (.group index body)
  loop {least : Nat} {most : Option Nat} {appetite : Appetite} {body : Expr} (inner : kind body)
    (gives : appetite ≠ .possessive) : kind (.loop least most appetite body)

/-- A text is read by itself, as parts of a kind. -/
def ReadsAs (kind : Expr → Prop) (text : Text) (count : Nat) : Prop :=
  ∃ parts, Reads text count parts ∧ ∀ before, ∀ part ∈ parts before, kind part

namespace Regex.Reader

/-- The standard regular expression after a point matches up to the next point. -/
theorem Reads.pointed : Reads ['[', '^', '\\', '.', ']', '+', '?'] 0 fun _ =>
    [.loop 1 none .lazy (.sequence [.notChar '.'.toNat])] := by
  apply Reads.ofParts
  intro reader position rest unsigned
  -- The point is escaped in its set, which is a token of its own and not two characters.
  have escape (place : Nat) (after : Cursor) : readSetItem (.escaped '.') place after =
      .ok (.char '.'.toNat, after) := rfl
  have set : reader.readToken (.plain '[') position
        ⟨.plain '^' :: .escaped '.' :: .plain ']' :: Token.ofText ('+' :: '?' :: rest),
          position + 1⟩ =
      .ok (reader.push (.notChar '.'.toNat), ⟨Token.ofText ('+' :: '?' :: rest), position + 5⟩) := by
    simp [readToken, readChar, Unicode.isAsciiBlank, readSet, readSetItems, escape,
      Cursor.startsWith, Cursor.next, Token.width, bind, Except.bind, pure, Except.pure,
      List.eraseDups_cons]
  have point : (facing reader position
      ('[' :: '^' :: '\\' :: '.' :: ']' :: '+' :: '?' :: rest)).Reaches
        (facing (reader.push (.notChar '.'.toNat)) (position + 5) ('+' :: '?' :: rest)) := by
    have first : Scan.next? ⟨reader, .plain '[' :: .plain '^' :: .escaped '.' :: .plain ']' ::
        Token.ofText ('+' :: '?' :: rest), 0, position⟩ = _ :=
      Scan.next?_taking (Token.plain_ne_dangling _) set
    have taken (tokens : List Token) : (.plain '^' :: .escaped '.' :: .plain ']' :: tokens).length -
        tokens.length = 3 := by
      simp only [List.length_cons]
      omega
    rw [taken] at first
    exact .head first (.head (Scan.next?_passed (Token.plain_ne_dangling _))
      (.head (Scan.next?_passed (Token.escaped_ne_dangling _))
        (.single (Scan.next?_passed (Token.plain_ne_dangling _)))))
  have more : (reader.push (.notChar '.'.toNat)).readToken (.plain '+') (position + 5)
        ⟨Token.ofText (['?'] ++ rest), position + 6⟩ =
      .ok (reader.append [.loop 1 none .lazy (.sequence [.notChar '.'.toNat])],
        ⟨Token.ofText rest, position + 7⟩) := by
    simp [Token.ofText, readToken, readChar, push, Unicode.isAsciiBlank, repeatLatest,
      Cursor.startsWith, Cursor.next, Token.width, Reader.append, Item.parts]
  exact point.trans (reaches_taking (by decide) more rfl)

/-- A point with an asterisk or a plus sign matches anything up to a line end. -/
theorem Reads.anything {sign : Char} {least : Nat}
    (known : sign = '*' ∧ least = 0 ∨ sign = '+' ∧ least = 1) :
    Reads ['.', sign] 0 fun _ => [.loop least none .greedy (.sequence [.any])] := by
  apply Reads.ofParts
  intro reader position rest unsigned
  have point : (facing reader position ('.' :: sign :: rest)).Reaches
      (facing (reader.push .any) (position + 1) (sign :: rest)) :=
    reaches_read (by decide) (by simp [readToken, readChar, Unicode.isAsciiBlank])
  have bare : sign ≠ '\\' := by rcases known with ⟨rfl, -⟩ | ⟨rfl, -⟩ <;> decide
  have more : (reader.push .any).readToken (.plain sign) (position + 1)
        ⟨Token.ofText rest, position + 2⟩ =
      .ok (reader.append [.loop least none .greedy (.sequence [.any])],
        ⟨Token.ofText rest, position + 2⟩) := by
    rcases known with ⟨rfl, rfl⟩ | ⟨rfl, rfl⟩ <;>
      simp [readToken, readChar, push, Unicode.isAsciiBlank, repeatLatest, Reader.append,
        Item.parts, startsWith_facing unsigned.1, startsWith_facing unsigned.2]
  exact point.trans (reaches_read bare more)

end Regex.Reader

namespace ReadsAs

variable {kind : Expr → Prop} {one two text : Text} {count more : Nat}

/-! ## Texts -/

/-- A text that is read as parts without groups. -/
theorem ofParts {parts : List Expr} (reads : Reads text 0 fun _ => parts)
    (each : ∀ part ∈ parts, kind part) : ReadsAs kind text 0 :=
  ⟨_, reads, fun _ => each⟩

/-- A text that is read as one part without groups. -/
theorem ofPart {part : Expr} (reads : Reads text 0 fun _ => [part]) (holds : kind part) :
    ReadsAs kind text 0 :=
  ofParts reads fun _ found => List.mem_singleton.1 found ▸ holds

/-- One text after the other. -/
theorem append (first : ReadsAs kind one count) (second : ReadsAs kind two more)
    (unsigned : StartsUnsigned two) : ReadsAs kind (one ++ two) (count + more) := by
  obtain ⟨parts, reads, each⟩ := first
  obtain ⟨later, readsOn, eachLater⟩ := second
  refine ⟨_, reads.append readsOn unsigned, fun before part found => ?_⟩
  rcases List.mem_append.1 found with here | there
  · exact each before part here
  · exact eachLater (before + count) part there

/-- A literal. -/
theorem literal {text : Text} (each : ∀ c ∈ text, kind (.char c.toNat)) :
    ReadsAs kind (escapeRegex text) 0 := by
  refine ofParts (Reads.literal text) fun part found => ?_
  obtain ⟨c, member, rfl⟩ := List.mem_map.1 found
  exact each c member

/-- A lead. -/
theorem lead {lead : Option Char} (each : ∀ c ∈ lead, kind (.char c.toNat)) :
    ReadsAs kind (leadSource lead) 0 :=
  literal fun c found => each c (Option.mem_toList.1 found)

variable (kinds : Expr.Hereditary kind)

include kinds

/-- A group. -/
theorem group (reads : ReadsAs kind text 0) (bare : text.head? ≠ some '?') :
    ReadsAs kind ('(' :: text ++ [')']) 1 := by
  obtain ⟨parts, reading, each⟩ := reads
  refine ⟨_, reading.group bare, fun before part found => ?_⟩
  obtain rfl := List.mem_singleton.1 found
  exact kinds.group (kinds.sequence (each (before + 1)))

/-- An optional group. -/
theorem optionalGroup (reads : ReadsAs kind text 0) (bare : text.head? ≠ some '?') :
    ReadsAs kind ('(' :: text ++ [')', '?']) 1 := by
  obtain ⟨parts, reading, each⟩ := reads
  refine ⟨_, reading.optionalGroup bare, fun before part found => ?_⟩
  obtain rfl := List.mem_singleton.1 found
  refine kinds.loop (kinds.sequence fun part found => ?_) (by decide)
  obtain rfl := List.mem_singleton.1 found
  exact kinds.group (kinds.sequence (each (before + 1)))

/-- A text that is repeated as a whole. -/
theorem repeated {sign : Char} {most : Option Nat} (reads : ReadsAs kind text count)
    (known : sign = '?' ∧ most = some 1 ∨ sign = '*' ∧ most = none) :
    ReadsAs kind (['(', '?', ':'] ++ text ++ [')', sign]) count := by
  obtain ⟨parts, reading, each⟩ := reads
  refine ⟨_, reading.repeated known, fun before part found => ?_⟩
  obtain rfl := List.mem_singleton.1 found
  exact kinds.loop (kinds.sequence (each before)) (by decide)

/-! ## Placeholders -/

/-- A regular expression that the library has for a placeholder, which begins with nothing that has
a meaning after a parenthesis or another expression. -/
theorem ofLibrary {regex : Text} (known : regex ∈ libraryRegexes) :
    ReadsAs kind regex 0 ∧ StartsUnsigned regex ∧ regex ≠ [] := by
  have repeats {least : Nat} {appetite : Appetite} {part : Expr} (holds : kind part)
      (gives : appetite ≠ .possessive) : kind (.loop least none appetite (.sequence [part])) :=
    kinds.loop (kinds.sequence fun _ found => List.mem_singleton.1 found ▸ holds) gives
  have segment : ReadsAs kind "[^/]+?".toList 0 :=
    .ofPart Reads.segment (repeats (kinds.notChar (by decide)) (by decide))
  have pointed : ReadsAs kind ['[', '^', '\\', '.', ']', '+', '?'] 0 :=
    .ofPart Reader.Reads.pointed (repeats (kinds.notChar (by decide)) (by decide))
  have any (least : Nat) : kind (.loop least none .greedy (.sequence [.any])) :=
    repeats kinds.any (by decide)
  have digits : ReadsAs kind "\\d+".toList 0 :=
    .ofPart Reads.digits (repeats kinds.digit (by decide))
  have point : ReadsAs kind (escapeRegex ['.']) 0 := literal fun c found => by
    obtain rfl := List.mem_singleton.1 found
    exact kinds.char (by decide)
  have fraction := digits.append ((point.append digits (by decide)).repeated kinds
    (.inl ⟨rfl, rfl⟩)) (by decide)
  have all : libraryRegexes = ["[^/]+?".toList, "[^/]+?".toList,
      ['[', '^', '\\', '.', ']', '+', '?'], ['.', '*'], "[^/]+?".toList, "\\d+".toList,
      "\\d+".toList ++ (['(', '?', ':'] ++ (escapeRegex ['.'] ++ "\\d+".toList) ++ [')', '?']),
      ['.', '+']] := by decide
  rw [all] at known
  simp only [List.mem_cons, List.not_mem_nil, or_false] at known
  rcases known with rfl | rfl | rfl | rfl | rfl | rfl | rfl | rfl
  · exact ⟨segment, by decide, by decide⟩
  · exact ⟨segment, by decide, by decide⟩
  · exact ⟨pointed, by decide, by decide⟩
  · exact ⟨.ofPart (Reader.Reads.anything (.inl ⟨rfl, rfl⟩)) (any 0), by decide, by decide⟩
  · exact ⟨segment, by decide, by decide⟩
  · exact ⟨digits, by decide, by decide⟩
  · exact ⟨fraction, by decide, by decide⟩
  · exact ⟨.ofPart (Reader.Reads.anything (.inr ⟨rfl, rfl⟩)) (any 1), by decide, by decide⟩

variable {found : Placeholder}

/-- What the group of a placeholder holds. -/
theorem captureSource (known : found.regex ∈ libraryRegexes)
    (leads : ∀ c ∈ found.lead, kind (.char c.toNat)) :
    ReadsAs kind found.captureSource 0 ∧ found.captureSource.head? ≠ some '?' := by
  obtain ⟨once, unsigned, given⟩ := ofLibrary kinds known
  have again := ((lead leads).append once unsigned).repeated kinds (.inr ⟨rfl, rfl⟩)
  have several := once.append again (by simp [StartsUnsigned])
  unfold Placeholder.captureSource
  split
  · refine ⟨by simpa using several, ?_⟩
    obtain ⟨c, rest, cut⟩ := List.exists_cons_of_ne_nil given
    have first := unsigned.1
    rw [cut] at first ⊢
    exact first
  · exact ⟨once, unsigned.1⟩

/-- A placeholder with a regular expression of the library. -/
theorem placeholder (known : found.regex ∈ libraryRegexes)
    (leads : ∀ c ∈ found.lead, kind (.char c.toNat)) : ReadsAs kind found.source 1 := by
  obtain ⟨captured, bare⟩ := captureSource kinds known leads
  have before := lead leads
  have whole := before.append (captured.group kinds bare) (by simp [StartsUnsigned])
  rw [Nat.zero_add] at whole
  unfold Placeholder.source
  simp only
  split
  · exact whole
  · split
    · simpa using captured.optionalGroup kinds bare
    · simpa using whole.repeated kinds (.inl ⟨rfl, rfl⟩)

/-! ## Routes -/

/-- A row of tokens whose placeholders have regular expressions of the library, with a text after
it. -/
theorem sources {tokens : List PatternToken} {rest : Text}
    (known : ∀ placeholder ∈ placeholders tokens, placeholder.regex ∈ libraryRegexes)
    (leads : ∀ placeholder ∈ placeholders tokens, ∀ c ∈ placeholder.lead, kind (.char c.toNat))
    (literals : ∀ c ∈ literalText tokens, kind (.char c.toNat)) (reads : ReadsAs kind rest 0)
    (unsigned : StartsUnsigned rest) :
    ∃ count, ReadsAs kind (tokens.flatMap PatternToken.source ++ rest) count := by
  induction tokens with
  | nil => exact ⟨0, reads⟩
  | cons token tokens ih =>
    have free := startsUnsigned_sources tokens unsigned
    rw [List.flatMap_cons, List.append_assoc]
    cases token with
    | literal text =>
      obtain ⟨here, there⟩ := List.forall_mem_append.1 literals
      obtain ⟨count, later⟩ := ih known leads there
      exact ⟨_, (literal here).append later free⟩
    | placeholder found =>
      obtain ⟨regex, others⟩ := List.forall_mem_cons.1 known
      obtain ⟨led, more⟩ := List.forall_mem_cons.1 leads
      obtain ⟨count, later⟩ := ih others more literals
      exact ⟨_, (placeholder kinds regex led).append later free⟩

/-- What the options ask for after the front of a route. -/
theorem final (options : Options) (slash : Bool) :
    ReadsAs kind (finalSource options slash) 0 := by
  refine .ofParts (reads_final options slash) fun part found => ?_
  have char : kind (.char '/'.toNat) := kinds.char (by decide)
  have optional : kind Reader.optionalSlashExpr := by
    refine kinds.loop (kinds.sequence fun part found => ?_) (by decide)
    rcases List.mem_cons.1 found with rfl | last
    · exact char
    · obtain rfl := List.mem_singleton.1 last
      exact kinds.textEnd
  have all : finalParts options slash ⊆ [.char '/'.toNat, .anchor .lineEnd,
      Reader.optionalSlashExpr, Reader.segmentEndExpr] := by
    unfold finalParts tailParts
    cases slash <;> cases options.strict <;> cases options.whole <;> simp
  have member := all found
  simp only [List.mem_cons, List.not_mem_nil, or_false] at member
  rcases member with rfl | rfl | rfl | rfl
  · exact char
  · exact kinds.anchor .lineEnd
  · exact optional
  · exact kinds.segmentEnd

/-- The source of a row of tokens whose placeholders have regular expressions of the library. -/
theorem patternSource (options : Options) {tokens : List PatternToken}
    (known : ∀ placeholder ∈ placeholders tokens, placeholder.regex ∈ libraryRegexes)
    (leads : ∀ placeholder ∈ placeholders tokens, ∀ c ∈ placeholder.lead, kind (.char c.toNat))
    (literals : ∀ c ∈ literalText tokens, kind (.char c.toNat)) :
    ∃ count, ReadsAs kind (RoutePattern.patternSource options tokens) count := by
  obtain ⟨others, same, within, front⟩ := exists_routeFront_within tokens
  have unsigned := startsUnsigned_final options (endsInSlash tokens)
  obtain ⟨count, reads⟩ := sources kinds (by rw [same.placeholders]; exact known)
    (by rw [same.placeholders]; exact leads) (fun c found => literals c (within found))
    (final kinds options (endsInSlash tokens)) unsigned
  have free := startsUnsigned_sources others unsigned
  rw [front, ← routeSource_eq] at reads free
  have start : ReadsAs kind ['^'] 0 := .ofPart Reads.start (kinds.anchor .lineStart)
  exact ⟨_, start.append reads free⟩

end ReadsAs

/-! ## Programs -/

/-- A program is compiled from the parts that its source is read as. -/
theorem compiled_of_reads {source : Text} {count : Nat} {parts : Nat → List Expr} {flags : Flags}
    {program : Program} (reads : Reads source count parts)
    (compilation : Program.compile source flags = .ok program) :
    program.expr = .sequence (parts 0) ∧ program.flags = flags ∧ program.groups = count := by
  obtain ⟨widths, counted, reading⟩ := reads (Reader.start flags) 0
  have ending := reading [] (by simp [StartsUnsigned])
  rw [List.append_nil] at ending
  obtain ⟨expr, groups, -, kept, -⟩ := compile_of_reaches compilation ending
  refine ⟨?_, kept, groups.trans (by simpa [Reader.append, Reader.widen, Reader.start] using counted)⟩
  rw [expr, Frame.expr]
  exact congrArg Expr.sequence (Reader.frame_parts_append _ _ rfl rfl)

end RoutePattern
