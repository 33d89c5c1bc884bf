import RoutePattern.Regex.Matcher
import RoutePattern.Regex.Reader

/-!
# Compiled regular expressions

A source is compiled once, into an expression with the flags and group names that were read, and
is then matched against texts: at their start, or at the first place where it matches. A match is
given by places in the text.
-/
namespace RoutePattern.Regex

/-- A regular expression that has been read. -/
structure Program where
  source : Text
  flags : Flags
  expr : Expr
  /-- The count of groups. -/
  groups : Nat
  /-- The names of groups with their numbers. -/
  names : List (Text × Nat)
  deriving Repr, DecidableEq

/-- The places of a match and of its groups, and the text they are places of. -/
structure Match where
  text : Text
  start : Nat
  stop : Nat
  /-- The places of each group from the first on; none for a group that took no part. -/
  groups : List (Option (Nat × Nat))
  deriving Repr, DecidableEq

namespace Match

/-- The text between two places. -/
def slice (found : Match) (start stop : Nat) : Text := (found.text.drop start).take (stop - start)

/-- The text of the whole match. -/
def whole (found : Match) : Text := found.slice found.start found.stop

/-- The texts of the groups. -/
def captures (found : Match) : List (Option Text) :=
  found.groups.map (·.map fun (start, stop) => found.slice start stop)

end Match

/-- Every look-behind of an expression has a fixed width. -/
def Expr.behindFixed : Expr → Bool
  | .seq first second | .alt first second | .ifGroup _ first second =>
    first.behindFixed && second.behindFixed
  | .group _ body | .flagged _ body | .atomic body | .ahead _ body | .loop _ _ _ body =>
    body.behindFixed
  | .behind _ width body => width.least == width.greatest && body.behindFixed
  | _ => true

namespace Program

/-- The program of a source that has been read, unless it refers to a group that is not there or
holds a look-behind of no fixed width. -/
def ofReader (source : Text) (reader : Reader) : Except Refusal Program :=
  let groups := reader.widths.length
  let expr := reader.frame.expr
  match reader.references.find? fun reference => groups < reference.1 with
  | some (index, position) =>
    .error (.fault (.invalidGroupReference index) (some position))
  | none =>
    if expr.behindFixed then .ok ⟨source, reader.flags, expr, groups, reader.names⟩
    else .error (.fault .lookbehindNotFixed none)

/-- The program of a source, read under flags. -/
def compile (source : Text) (flags : Flags) : Except Refusal Program := do
  let reader ← (Reader.start flags).readTokens (Token.ofText source) 0 0
  ofReader source reader

/-- The name of a group. -/
def nameOf? (program : Program) (index : Nat) : Option Text :=
  (program.names.find? fun entry => entry.2 = index).map (·.1)

/-- The state in front of a text, after some of it. -/
def stateAt (program : Program) (before after : Text) : State :=
  ⟨⟨before, after⟩, ⟨before, after⟩, List.replicate program.groups .unset⟩

/-- The match that starts at a place. -/
def matchFrom (program : Program) (before after : Text) : Option Match :=
  let state := program.stateAt before after
  ((program.expr.matcher program.flags .undecided).first state).ended?.map fun ended =>
    { text := before.reverse ++ after
      start := state.position
      stop := ended.position
      groups := ended.slots.map Slot.span? }

/-- The match that starts where the text starts. -/
def matchStart (program : Program) (text : Text) : Option Match := program.matchFrom [] text

/-- The match at the first place from a given one on. -/
def search (program : Program) (before : Text) : Text → Option Match
  | [] => program.matchFrom before []
  | c :: rest =>
    match program.matchFrom before (c :: rest) with
    | some found => some found
    | none => search program (c :: before) rest

/-- The match at the first place of the text. -/
def find (program : Program) (text : Text) : Option Match := program.search [] text

end Program

end RoutePattern.Regex
