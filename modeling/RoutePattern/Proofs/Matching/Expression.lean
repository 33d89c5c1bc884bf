import Mathlib.Data.List.Forall2
import RoutePattern.Proofs.Letter
import RoutePattern.Proofs.Matching.Repetition

/-!
# The ends of expressions

The parts of a sequence are tried one after the other, each at every end of those before it
(`chain`). A slash is the same in any case, so an expression for a slash, and one for anything but
a slash, mean the same whether case is ignored or not. An expression that opens with the start of
the text goes on from nowhere else, so the first match of its program is the one at the start of the
text (`Program.find_eq_matchStart`).
-/
namespace RoutePattern.Regex

/-- The ends of an expression, whatever comes after it. -/
def Expr.Lists (expr : Expr) (flags : Flags) (ends : Spot → List Spot) : Prop :=
  ∀ lead, (expr.matcher flags lead).Lists ends

/-- The end of a literal, if it holds for the next character. -/
def charEnds (flags : Flags) (code : Nat) (spot : Spot) : List Spot :=
  match spot.after with
  | [] => []
  | c :: rest => if sameCode flags code c.toNat then [spot.advance [c] rest] else []

/-- The end of the text, or the place before a last line end, is its own end. -/
def lineEndEnds (spot : Spot) : List Spot :=
  if spot.after.isEmpty || spot.after == ['\n'] then [spot] else []

/-- The ends of a group around a body with given ends. -/
def groupEnds (index : Nat) (ends : Spot → List Spot) (spot : Spot) : List Spot :=
  (ends (spot.openGroup index)).map (·.closeGroup index)

/-- The end of a look ahead, if its body can end anywhere: the spot itself, with what the groups in
the body have matched. -/
def aheadEnds (ends : Spot → List Spot) (spot : Spot) : List Spot :=
  (ends spot).head?.toList.map fun ended => { spot with slots := ended.slots }

/-- The ends of several parts one after the other. -/
def chain : List (Spot → List Spot) → Spot → List Spot
  | [], spot => [spot]
  | ends :: later, spot => (ends spot).flatMap (chain later)

/-- The ends of one row of parts after another one. -/
theorem chain_append (one two : List (Spot → List Spot)) (spot : Spot) :
    chain (one ++ two) spot = (chain one spot).flatMap (chain two) := by
  induction one generalizing spot with
  | nil => simp [chain]
  | cons ends one ih =>
    rw [List.cons_append, chain, chain, List.flatMap_assoc]
    exact List.flatMap_congr fun ended _ => ih ended

/-- The ends of a row of one part. -/
theorem chain_singleton (ends : Spot → List Spot) : chain [ends] = ends := by
  funext spot
  exact List.flatMap_singleton' _

/-- Going on from a row of parts is going on from the rest at every end of the first. -/
theorem findSome?_chain_cons {α : Type} (ends : Spot → List Spot) (later : List (Spot → List Spot))
    (spot : Spot) (go : Spot → Option α) :
    (chain (ends :: later) spot).findSome? go =
      (ends spot).findSome? fun ended => (chain later ended).findSome? go :=
  findSome?_flatMap _ _ _

/-- Going on from one row of parts after another one. -/
theorem findSome?_chain_append {α : Type} (one two : List (Spot → List Spot)) (spot : Spot)
    (go : Spot → Option α) :
    (chain (one ++ two) spot).findSome? go =
      (chain one spot).findSome? fun ended => (chain two ended).findSome? go := by
  rw [chain_append, findSome?_flatMap]

/-- Looking ahead for the end of the text is being there. -/
theorem aheadEnds_lineEndEnds : aheadEnds lineEndEnds = lineEndEnds := by
  funext spot
  unfold aheadEnds lineEndEnds
  split <;> rfl

namespace Expr

variable {flags : Flags}

/-- A sequence ends where the row of its parts does. -/
theorem lists_sequence {parts : List Expr} {ends : List (Spot → List Spot)}
    (each : List.Forall₂ (fun part ends => part.Lists flags ends) parts ends) :
    (sequence parts).Lists flags (chain ends) := by
  induction each with
  | nil => exact fun _ => Matcher.lists_id
  | cons first _ ih => exact fun lead => (first _).seq (ih lead)

/-- A literal takes one character. -/
theorem lists_char (code : Nat) : (char code).Lists flags (charEnds flags code) :=
  fun _ => Matcher.lists_one _

/-- The characters of a literal take one character each. -/
theorem lists_literal (text : Text) :
    List.Forall₂ (fun part ends => Lists part flags ends) (text.map fun c => char c.toNat)
      (text.map fun c => charEnds flags c.toNat) := by
  rw [List.forall₂_map_left_iff, List.forall₂_map_right_iff, List.forall₂_same]
  exact fun c _ => lists_char c.toNat

/-- A group closes at every end of its body. -/
theorem lists_group {body : Expr} {ends : Spot → List Spot}
    (lists : (body.matcher flags .undecided).Lists ends) (index : Nat) :
    (Expr.group index body).Lists flags (groupEnds index ends) :=
  fun _ => lists.group index

/-- A look ahead goes on where its body can end anywhere. -/
theorem Lists.ahead {body : Expr} {ends : Spot → List Spot} (lists : body.Lists flags ends) :
    (Expr.ahead false body).Lists flags (aheadEnds ends) :=
  fun _ => (lists .undecided).ahead

/-- An optional body of more than one character is tried before nothing is. -/
theorem Lists.optional {body : Expr} {ends : Spot → List Spot} (lists : body.Lists flags ends)
    (several : body.single? flags = none) :
    (Expr.loop 0 (some 1) .greedy body).Lists flags fun spot => ends spot ++ [spot] := by
  intro lead
  have looped := (lists .undecided).optional body.ownGroups?
  simpa only [matcher, several] using looped

/-- An unbounded greedy repetition of a body of more than one character. -/
theorem Lists.star {body : Expr} {ends : Spot → List Spot} (lists : body.Lists flags ends)
    (several : body.single? flags = none) (advances : Matcher.Advances ends) :
    (Expr.loop 0 none .greedy body).Lists flags (Matcher.starEnds ends) := by
  intro lead
  have looped := (lists .undecided).star advances body.ownGroups?
  simpa only [matcher, several] using looped

/-- A choice, none of whose expressions is offered where it would have to match. -/
theorem Lists.alt {first second : Expr} {f g : Spot → List Spot} (one : first.Lists flags f)
    (two : second.Lists flags g) (last : second.isChoice = false)
    (needed : ∀ spot, ((first.lead? flags).getD .undecided).admits spot.after = false →
      f spot = [])
    (needed' : ∀ spot, ((second.lead? flags).getD .undecided).admits spot.after = false →
      g spot = []) :
    (Expr.alt first second).Lists flags fun spot => f spot ++ g spot := by
  intro lead
  have either := ((one .undecided).offered needed).alt ((two .undecided).offered needed')
  simpa only [matcher, last, Bool.false_eq_true, if_false] using either

/-- The end of the text, or the place before a last line end. -/
theorem lists_lineEnd (oneLine : flags.multiline = false) :
    (anchor .lineEnd).Lists flags lineEndEnds := by
  have agrees (state : State) : state.holds flags .lineEnd =
      (state.spot.after.isEmpty || state.spot.after == ['\n']) := by
    simp only [State.holds, oneLine, Bool.false_and, Bool.or_false, State.spot]
  exact fun _ => Matcher.lists_test agrees

/-- The start of the text. -/
theorem lists_lineStart (oneLine : flags.multiline = false) :
    (anchor .lineStart).Lists flags fun spot => if spot.before.isEmpty then [spot] else [] := by
  have agrees (state : State) : state.holds flags .lineStart = state.spot.before.isEmpty := by
    simp only [State.holds, oneLine, Bool.false_and, Bool.or_false, State.spot]
  exact fun _ => Matcher.lists_test agrees

end Expr

/-! ## Slashes -/

/-- A slash has no case. -/
theorem caseMatters_slash (flags : Flags) : caseMatters flags '/'.toNat = false := by
  have unicode : Unicode.hasCase '/'.toNat = false := by decide
  have ascii : Unicode.isAsciiLetter '/'.toNat = false := by decide
  rw [caseMatters, unicode, ascii, ite_self, Bool.and_false]

/-- A literal stands for a slash exactly if it is one. -/
theorem sameCode_slash_right (flags : Flags) (literal : Nat) :
    sameCode flags literal '/'.toNat = (literal == '/'.toNat) :=
  sameCode_of_caseless (.inr (caseMatters_slash flags))

/-- The literal slash stands for a slash alone. -/
theorem sameCode_slash_left (flags : Flags) (code : Nat) :
    sameCode flags '/'.toNat code = (code == '/'.toNat) := by
  rw [sameCode_of_caseless (.inl (caseMatters_slash flags)), Bool.beq_comm]

/-! ## Matches that start where the text does -/

namespace Program

variable {program : Program} {later : List (Spot → List Spot)}

/-- Behind the first character of a text no match starts. -/
theorem matchFrom_cons_eq_none (lists : program.expr.Lists program.flags
      (chain ((fun spot => if spot.before.isEmpty then [spot] else []) :: later)))
    (c : Char) (before after : Text) : program.matchFrom (c :: before) after = none := by
  have first := (lists .undecided).first (program.stateAt (c :: before) after)
  have nowhere : chain ((fun spot => if spot.before.isEmpty then [spot] else []) :: later)
      (program.stateAt (c :: before) after).spot = [] := rfl
  rw [nowhere, List.head?_nil] at first
  have ended : ((program.expr.matcher program.flags .undecided).first
      (program.stateAt (c :: before) after)).ended? = none := Option.map_eq_none_iff.1 first
  rw [matchFrom, ended, Option.map_none]

/-- The first match in a text is the one at its start. -/
theorem find_eq_matchStart (lists : program.expr.Lists program.flags
      (chain ((fun spot => if spot.before.isEmpty then [spot] else []) :: later))) (text : Text) :
    program.find text = program.matchStart text := by
  have behind (c : Char) (before after : Text) : program.search (c :: before) after = none := by
    induction after generalizing c before with
    | nil => exact matchFrom_cons_eq_none lists c before []
    | cons d after ih =>
      rw [search, matchFrom_cons_eq_none lists c before (d :: after)]
      exact ih d (c :: before)
  cases text with
  | nil => rfl
  | cons c rest =>
    have start : program.matchStart (c :: rest) = program.matchFrom [] (c :: rest) := rfl
    rw [find, search, behind, start]
    cases program.matchFrom [] (c :: rest) with
    | none => rfl
    | some found => rfl

end Program

end RoutePattern.Regex
