import RoutePattern.Regex.Flags
import RoutePattern.Unicode.Ranges
import RoutePattern.Unicode.Digit
import RoutePattern.Unicode.CaseMap
import RoutePattern.Unicode.Word

/-!
# Regular expressions

Expressions as trees. A literal is a code point, which need not be that of a character: an escape
can name half of a surrogate pair, and such a literal matches nothing.
-/
namespace RoutePattern.Regex

/-- A class of characters with a name. -/
inductive Category where
  | digit
  | blank
  | word
  deriving Repr, DecidableEq

namespace Category

/-- A code point is in the class, by the alphabet in force. -/
def holds (category : Category) (ascii : Bool) (code : Nat) : Bool :=
  match category, ascii with
  | digit, true => Unicode.isAsciiDigit code
  | digit, false => Unicode.isDigit code
  | blank, true => Unicode.isAsciiBlank code
  | blank, false => Unicode.isBlank code
  | word, true => Unicode.isAsciiWord code
  | word, false => Unicode.isWord code

end Category

/-- An item of a set between brackets. -/
inductive SetItem where
  | char (code : Nat)
  | range (low high : Nat)
  | category (kind : Category) (negated : Bool)
  deriving Repr, DecidableEq

/-- A condition on a place in the text. -/
inductive Anchor where
  /-- The start of the text or, with many lines, of a line. -/
  | lineStart
  /-- The end of the text, the place before a last line end or, with many lines, the end of a
  line. -/
  | lineEnd
  | textStart
  | textEnd
  /-- A word starts or ends here. -/
  | wordEdge
  /-- No word starts or ends here. -/
  | wordInside
  deriving Repr, DecidableEq

/-- How a repetition chooses its count. -/
inductive Appetite where
  /-- As many as possible, fewer if the rest asks for it. -/
  | greedy
  /-- As few as possible, more if the rest asks for it. -/
  | lazy
  /-- As many as possible, whatever the rest asks for. -/
  | possessive
  deriving Repr, DecidableEq

/-- The least and the greatest count of characters that an expression can match. -/
structure Width where
  least : Nat
  greatest : Nat
  deriving Repr, DecidableEq, Inhabited

/-- A regular expression. -/
inductive Expr where
  /-- The empty text. -/
  | empty
  /-- One code point. -/
  | char (code : Nat)
  /-- Any character but one. -/
  | notChar (code : Nat)
  /-- Any character but, as a rule, a line end. -/
  | any
  /-- A character that some item holds for, or that none holds for. -/
  | set (negated : Bool) (items : List SetItem)
  | anchor (place : Anchor)
  /-- One expression after the other. -/
  | seq (first second : Expr)
  /-- The first expression or, failing that, the second. A second one that is such a choice itself
  goes on with the same choice. -/
  | alt (first second : Expr)
  /-- A group that remembers what it matched. -/
  | group (index : Nat) (body : Expr)
  /-- An expression under changed flags. -/
  | flagged (change : FlagChange) (body : Expr)
  /-- An expression whose first match is final. -/
  | atomic (body : Expr)
  /-- What follows matches, or does not. -/
  | ahead (negated : Bool) (body : Expr)
  /-- What stands before, as far back as the width says, matches, or does not. -/
  | behind (negated : Bool) (width : Width) (body : Expr)
  /-- Repetition with a least count and, unless it is unbounded, a greatest one. -/
  | loop (least : Nat) (most : Option Nat) (appetite : Appetite) (body : Expr)
  /-- The text of a group again. -/
  | again (index : Nat)
  /-- One expression if a group has matched and the other if it has not. -/
  | ifGroup (index : Nat) (yes no : Expr)
  deriving Repr, DecidableEq

namespace Expr

/-- Expressions one after the other. -/
def sequence (exprs : List Expr) : Expr := exprs.foldr seq empty

/-- Expressions to be tried in order; there is at least the first. -/
def choice (first : Expr) : List Expr → Expr
  | [] => first
  | second :: rest => alt first (choice second rest)

/-- The expression goes on with a choice. -/
def isChoice : Expr → Bool
  | alt .. => true
  | _ => false

/-- The count of groups inside an expression. -/
def groupCount : Expr → Nat
  | group _ body => body.groupCount + 1
  | seq first second | alt first second | ifGroup _ first second =>
    first.groupCount + second.groupCount
  | flagged _ body | atomic body | ahead _ body | behind _ _ body | loop _ _ _ body =>
    body.groupCount
  | empty | char _ | notChar _ | any | set .. | anchor _ | again _ => 0

/-- What an expression matches hangs on what groups have matched before. -/
def refersBack : Expr → Bool
  | again _ | ifGroup .. => true
  | seq first second | alt first second => first.refersBack || second.refersBack
  | group _ body | flagged _ body | atomic body | ahead _ body | behind _ _ body
  | loop _ _ _ body => body.refersBack
  | empty | char _ | notChar _ | any | set .. | anchor _ => false

/-- No look-behind stands inside a possessive repetition; `possessive` tells whether the expression
itself stands inside one. -/
def isSteady (possessive : Bool) : Expr → Bool
  | seq first second | alt first second | ifGroup _ first second =>
    first.isSteady possessive && second.isSteady possessive
  | group _ body | flagged _ body | atomic body | ahead _ body => body.isSteady possessive
  | behind _ _ body => !possessive && body.isSteady possessive
  | loop _ _ appetite body =>
    body.isSteady possessive && (appetite != .possessive || body.isSteady true)
  | empty | char _ | notChar _ | any | set .. | anchor _ | again _ => true

/-- The count of groups inside an expression that refers to no group and never goes back. -/
def ownGroups? (expr : Expr) : Option Nat :=
  if expr.refersBack || !expr.isSteady false then none else some expr.groupCount

end Expr

namespace Width

/-- A least width is counted up to this bound. -/
def leastBound : Nat := 4294967294

/-- A greatest width is counted up to this bound, which also stands for unbounded widths. -/
def greatestBound : Nat := 4294967295

/-- A width cut at the bounds. -/
def cut (width : Width) : Width :=
  ⟨min width.least leastBound, min width.greatest greatestBound⟩

end Width

namespace Expr

/-- The width of an expression before it is cut at the bounds; the list holds the widths of the
groups from the first on. -/
def rawWidth (groups : List Width) : Expr → Width
  | empty | anchor _ | ahead .. | behind .. => ⟨0, 0⟩
  | char _ | notChar _ | any | set .. => ⟨1, 1⟩
  | seq first second =>
    let one := first.rawWidth groups
    let two := second.rawWidth groups
    ⟨one.least + two.least, one.greatest + two.greatest⟩
  | alt first second | ifGroup _ first second =>
    let one := first.rawWidth groups
    let two := second.rawWidth groups
    ⟨min one.least two.least, max one.greatest two.greatest⟩
  | group _ body | flagged _ body | atomic body => body.rawWidth groups
  | loop least most _ body =>
    let one := body.rawWidth groups
    ⟨one.least * least, one.greatest * most.getD Width.greatestBound⟩
  | again index => groups[index - 1]?.getD ⟨0, 0⟩

/-- The width of an expression. -/
def width (groups : List Width) (expr : Expr) : Width := (expr.rawWidth groups).cut

end Expr

end RoutePattern.Regex
