import RoutePattern.Proofs.Language.Phrase
import RoutePattern.Proofs.Matching.Comparison.Expression

/-!
# Programs of phrases

A regular expression matches the whole of a text exactly if it takes the text
(`Program.matchesWhole_iff`). A row of regular parts between the signs for the start and for the
end of a text matches the texts that it takes (`Program.matches_anchored_iff`), as long as the text
holds no line end: the sign for the end also stands for the place before a last one. A phrase by
itself compiles (`Phrase.compile_text`), and between the parentheses of a larger source it is the
body of a group (`Phrase.reaches_group`).
-/
namespace RoutePattern.Regex

open Scan (facing Reaches)

/-! ## Matching whole texts -/

/-- A condition holds exactly at some places. -/
def Anchor.Marks (anchor : Anchor) (flags : Flags) (marked : Place → Prop) : Prop :=
  ∀ s : State, s.holds flags anchor = true ↔ marked s.toPlace

namespace Anchor

variable {flags : Flags}

/-- The end of the text. -/
theorem marks_textEnd : textEnd.Marks flags fun place => place.after = [] :=
  fun _ => List.isEmpty_iff

/-- The start of the text, where there is one line. -/
theorem marks_lineStart (single : flags.multiline = false) :
    lineStart.Marks flags fun place => place.before = [] :=
  fun s => by simp [State.holds, single]

/-- The end of the text or the place before a last line end, where there is one line. -/
theorem marks_lineEnd (single : flags.multiline = false) :
    lineEnd.Marks flags fun place => place.after = [] ∨ place.after = ['\n'] :=
  fun s => by simp [State.holds, single]

end Anchor

namespace Expr

variable {flags : Flags}

/-- Regular parts in front of a row. -/
theorem accepts_append {parts rest : List Expr} (regular : ∀ part ∈ parts, part.isRegular = true)
    {lead : Lead} {next : Continuation} {good : Place → Prop}
    (accepts : Accepts ((sequence rest).matcher flags lead next) good) (told : lead.Sound next) :
    Accepts ((sequence (parts ++ rest)).matcher flags lead next)
      (Before ((sequence parts).language flags) good) := by
  rw [matcher_sequence_append]
  exact denotes (isRegular_sequence.2 regular) flags _ _ good accepts
    ((sequence rest).sound_lead flags lead told)

/-- At the end nothing is left to match. -/
theorem accepts_ended : Accepts (fun ended => .matched ended.note) fun _ => True :=
  fun _ => iff_of_true (Attempt.isMatch_matched _) trivial

/-- A condition on the place. -/
theorem accepts_anchor {anchor : Anchor} {marked : Place → Prop} (marks : anchor.Marks flags marked)
    {lead : Lead} {next : Continuation} {good : Place → Prop} (accepts : Accepts next good) :
    Accepts ((sequence [.anchor anchor]).matcher flags lead next)
      fun place => marked place ∧ good place := by
  intro s
  show (Matcher.test (fun state => state.holds flags anchor) next s).IsMatch ↔
    marked s.toPlace ∧ good s.toPlace
  rw [← marks s, ← accepts s]
  unfold Matcher.test
  split
  · next met => simp [met]
  · next refused => simp [refused]

end Expr

namespace Program

/-- The program matches a text from its start. -/
def Matches (program : Program) (text : Text) : Prop := (program.matchStart text).isSome = true

/-- The program matches the whole of a text. -/
def MatchesWhole (program : Program) (text : Text) : Prop :=
  { program with expr := .sequence [program.expr, .anchor .textEnd] }.Matches text

instance (program : Program) (text : Text) : Decidable (program.Matches text) :=
  inferInstanceAs (Decidable (_ = true))

instance (program : Program) (text : Text) : Decidable (program.MatchesWhole text) :=
  inferInstanceAs (Decidable (Matches _ text))

/-- A program matches where its expression does. -/
theorem matches_iff {program : Program} {text : Text} : program.Matches text ↔
    (program.expr.matcher program.flags .undecided (fun ended => .matched ended.note)
      (program.stateAt [] text)).IsMatch := by
  unfold Matches matchStart matchFrom Matcher.first
  rw [Option.isSome_map]
  generalize program.expr.matcher program.flags .undecided (fun ended => .matched ended.note)
    (program.stateAt [] text) = attempt
  cases attempt <;> simp [Attempt.ended?]

/-- A regular expression matches the whole of a text exactly if it takes the text. -/
theorem matchesWhole_iff {program : Program} (regular : program.expr.isRegular = true)
    {text : Text} : program.MatchesWhole text ↔ text ∈ program.expr.language program.flags := by
  have whole := Expr.accepts_append (List.forall_mem_singleton.2 regular)
    (Expr.accepts_anchor (@Anchor.marks_textEnd program.flags) Expr.accepts_ended)
    (Lead.sound_undecided _)
  rw [MatchesWhole, matches_iff]
  refine (whole _).trans ?_
  rw [Expr.language_sequence_singleton]
  constructor
  · rintro ⟨taken, found, rest, cut, ended, -⟩
    obtain rfl : rest = [] := ended
    rw [List.append_nil] at cut
    rwa [← cut] at found
  · exact fun found => ⟨text, found, [], (List.append_nil text).symm, rfl, trivial⟩

/-- Between the signs for the start and for the end of a text, regular parts match a text without
line ends exactly if they take it. -/
theorem matches_anchored_iff {program : Program} {parts : List Expr}
    (regular : ∀ part ∈ parts, part.isRegular = true)
    (expr : program.expr = .sequence ([.anchor .lineStart] ++ (parts ++ [.anchor .lineEnd])))
    (single : program.flags.multiline = false) {text : Text} (unbroken : '\n' ∉ text) :
    program.Matches text ↔ text ∈ (Expr.sequence parts).language program.flags := by
  have row := Expr.accepts_append regular
    (Expr.accepts_anchor (Anchor.marks_lineEnd single) Expr.accepts_ended) (Lead.sound_undecided _)
  rw [matches_iff, expr, Expr.matcher_sequence_append]
  refine (Expr.accepts_anchor (Anchor.marks_lineStart single) row _).trans ?_
  constructor
  · rintro ⟨-, taken, found, rest, cut, ended | ended, -⟩
    · obtain rfl : rest = [] := ended
      rw [List.append_nil] at cut
      rwa [← cut] at found
    · obtain rfl : rest = ['\n'] := ended
      obtain rfl : text = taken ++ ['\n'] := cut
      exact absurd (by simp) unbroken
  · exact fun found => ⟨rfl, text, found, [], (List.append_nil text).symm, .inl rfl, trivial⟩

/-- A source that has been read to its end, without references and outside of all groups, is a
program. -/
theorem compile_of_facing {source : Text} {flags : Flags} {last : Reader} {place : Nat}
    {expr : Expr} (reaches : (Scan.start source flags).Reaches (facing last place []))
    (outer : last.outer = []) (alphabets : last.alphabets = []) (references : last.references = [])
    (inside : last.frame.expr = expr) (fixed : expr.behindFixed = true) :
    compile source flags = .ok ⟨source, last.flags, expr, last.widths.length, last.names⟩ := by
  have ended : last.finish = .ok last := by
    simp [Reader.finish, Reader.checkAlphabets, outer, alphabets, bind, Except.bind, pure,
      Except.pure]
  have read : Reader.readTokens (Token.ofText source) 0 0 (Reader.start flags) = .ok last :=
    (Scan.readTokens_of_reaches reaches).trans ended
  have made : ofReader source last =
      .ok ⟨source, last.flags, expr, last.widths.length, last.names⟩ := by
    simp [ofReader, references, inside, fixed]
  rw [compile, read]
  exact made

end Program

/-! ## Sources of phrases -/

namespace Expr

/-- A regular expression looks at nothing behind it. -/
theorem behindFixed_of_isRegular {expr : Expr} (regular : expr.isRegular = true) :
    expr.behindFixed = true := by
  induction expr with
  | empty | char _ | notChar _ | any | set _ _ => rfl
  | seq first second one two | alt first second one two =>
    rw [isRegular, Bool.and_eq_true] at regular
    exact Bool.and_eq_true_iff.2 ⟨one regular.1, two regular.2⟩
  | group index body ih => exact ih regular
  | loop least most appetite body ih =>
    simp only [isRegular, Bool.and_eq_true] at regular
    exact ih regular.1.1
  | anchor _ | flagged _ _ _ | atomic _ _ | ahead _ _ _ | behind _ _ _ _ | again _
  | ifGroup _ _ _ _ _ => exact absurd regular Bool.false_ne_true

end Expr

namespace Phrase

variable (phrase : Phrase)

/-- All branches of a phrase together. -/
def expr : Expr := .sequence (Expr.alternation phrase.branches)

/-- The expression of a phrase is regular. -/
theorem isRegular_expr : phrase.expr.isRegular = true :=
  Expr.isRegular_sequence.2 (Expr.isRegular_alternation phrase.isRegular)

/-- A phrase by itself compiles. -/
theorem compile_text {flags : Flags} (shown : flags.verbose = false) :
    Program.compile phrase.text flags = .ok ⟨phrase.text, flags, phrase.expr, 0, []⟩ := by
  obtain ⟨frame, grows, reaches⟩ := phrase.reaches (Reader.start flags) shown
    (fun _ => FrameKind.noConfusion) 0 (show StartsUnsigned [] by simp [StartsUnsigned])
  have inside : frame.expr = phrase.expr := congrArg Expr.sequence (grows.parts rfl)
  rw [List.append_nil] at reaches
  exact Program.compile_of_facing reaches rfl rfl rfl inside
    (Expr.behindFixed_of_isRegular phrase.isRegular_expr)

/-- A phrase between parentheses is the body of a group. -/
theorem reaches_group (reader : Reader) (shown : reader.frame.verbose = false) (position : Nat) :
    ∃ width, ∀ rest, (facing reader position ('(' :: (phrase.text ++ ')' :: rest))).Reaches
      (facing ((reader.widen [width]).append [.group (reader.widths.length + 1) phrase.expr])
        (position + 1 + phrase.text.length + 1) rest) := by
  refine ⟨some (phrase.expr.width (reader.knownWidths ++ [⟨0, 0⟩])), fun rest => ?_⟩
  have bare : (phrase.text ++ ')' :: rest).head? ≠ some '?' :=
    (phrase.startsUnsigned.append (show StartsUnsigned (')' :: rest) by simp [StartsUnsigned])).1
  obtain ⟨frame, grows, read⟩ := phrase.reaches (reader.openCapture position) shown
    (fun _ => FrameKind.noConfusion) (position + 1)
    (show StartsUnsigned (')' :: rest) by simp [StartsUnsigned])
  have close := Reader.reaches_close rest (position + 1 + phrase.text.length)
    (show ((reader.openCapture position).withFrame frame).outer = reader.frame :: reader.outer
      from rfl)
  have closed : ((reader.openCapture position).withFrame frame).closeFrame reader.frame
      reader.outer =
        (reader.widen [some (phrase.expr.width (reader.knownWidths ++ [⟨0, 0⟩]))]).append
          [.group (reader.widths.length + 1) phrase.expr] := by
    have kind : frame.kind = .capture (reader.widths.length + 1) := grows.kind
    have inside : frame.expr = phrase.expr := congrArg Expr.sequence (grows.parts rfl)
    simp only [Reader.withFrame, Reader.closeFrame, Reader.closedItem, kind, inside]
    simp [Reader.openCapture, Reader.openFrame, Reader.append, Reader.widen, Reader.knownWidths]
  rw [closed] at close
  exact ((Reader.reaches_open bare position reader).trans read).trans close

end Phrase

end RoutePattern.Regex
