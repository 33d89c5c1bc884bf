import RoutePattern.Regex.Expr
import RoutePattern.Text.Basic

/-!
# Single characters

When a literal or a set holds for a character, with and without regard to case, and whether case
plays a part in it at all: a digit or a slash is the same in any case. Some expressions match
exactly one character (`Expr.single?`), and some show by their first character alone that they do
not match (`Expr.lead?`).
-/
namespace RoutePattern.Regex

/-- The lower case of a code point by the alphabet in force. -/
def lowerCode (flags : Flags) (code : Nat) : Nat :=
  if flags.ascii then Unicode.asciiLower code else Unicode.toLower code

/-- A literal code point stands for another one. -/
def sameCode (flags : Flags) (literal code : Nat) : Bool :=
  if !flags.ignoreCase then literal == code
  else if flags.ascii then Unicode.asciiLower literal == Unicode.asciiLower code
  else Unicode.sameLetter literal code

/-- The code points that count as a letter of lower case when case is ignored. -/
def letterForms (flags : Flags) (lower : Nat) : List Nat :=
  if flags.ascii then
    (if 97 ≤ lower && lower ≤ 122 then [lower, lower - 32] else [lower])
  else (Unicode.foldClass lower).flatMap Unicode.lowerSources

/-- An item of a set holds for a code point when case is ignored; `lower` is its lower case.
Letters of the first plane hold for all their forms. Beyond it a single letter has to be of lower
case itself, and a range holds for a letter whose lower case, or the start of whose upper case,
lies in it. -/
def SetItem.holdsIgnoringCase (flags : Flags) (lower : Nat) : SetItem → Bool
  | .char code =>
    if lowerCode flags code < 0x10000 then sameCode flags code lower else code == lower
  | .range low high =>
    (letterForms flags lower).any (fun form => low ≤ form && form ≤ high && form < 0x10000) ||
      (0x10000 ≤ high &&
        ((low ≤ lower && lower ≤ high) ||
          (low ≤ Unicode.upperStart lower && Unicode.upperStart lower ≤ high)))
  | .category kind negated => kind.holds flags.ascii lower != negated

/-- An item of a set holds for a code point. -/
def SetItem.holds (flags : Flags) (code : Nat) : SetItem → Bool
  | .char literal => literal == code
  | .range low high => low ≤ code && code ≤ high
  | .category kind negated => kind.holds flags.ascii code != negated

/-- A set holds for a code point. -/
def setHolds (flags : Flags) (negated : Bool) (items : List SetItem) (code : Nat) : Bool :=
  (if flags.ignoreCase then items.any (·.holdsIgnoringCase flags (lowerCode flags code))
    else items.any (·.holds flags code)) != negated

/-- Where case counts, sets that are merged into one hold what one of them holds. -/
theorem setHolds_merged {flags : Flags} (regard : flags.ignoreCase = false)
    (sets : List (List SetItem)) (code : Nat) :
    setHolds flags false sets.flatten.eraseDups code = sets.flatten.any (·.holds flags code) := by
  refine Bool.eq_iff_iff.2 ?_
  simp only [setHolds, regard, Bool.false_eq_true, if_false, Bool.bne_false, List.any_eq_true,
    List.mem_eraseDups]

/-! ## Case -/

/-- Case plays a part in a code point. -/
def caseMatters (flags : Flags) (code : Nat) : Bool :=
  flags.ignoreCase && if flags.ascii then Unicode.isAsciiLetter code else Unicode.hasCase code

/-- Case plays a part in an item of a set. Beyond the first plane it always may. -/
def SetItem.caseMatters (flags : Flags) : SetItem → Bool
  | .char code =>
    Regex.caseMatters flags code || (flags.ignoreCase && 0x10000 ≤ lowerCode flags code)
  | .range low high =>
    flags.ignoreCase && (0x10000 ≤ high ||
      if flags.ascii then Unicode.asciiCaseWithin low high else Unicode.caseWithin low high)
  | .category .. => false

/-- A letter counts as more letters of lower case than its own. -/
def hasSiblings (flags : Flags) (code : Nat) : Bool :=
  caseMatters flags code && !flags.ascii && (Unicode.foldClass (Unicode.toLower code)).length != 1

/-! ## Expressions of one character -/

/-- The characters that an expression of exactly one character matches. -/
structure CharTest where
  accepts : Char → Bool
  /-- The test has to go through a list of letter forms. -/
  listed : Bool

namespace Expr

/-- The characters that an expression matches, if it matches exactly one character and remembers
nothing. -/
def single? (flags : Flags) : Expr → Option CharTest
  | char code => some ⟨fun c => sameCode flags code c.toNat, hasSiblings flags code⟩
  | notChar code => some ⟨fun c => !sameCode flags code c.toNat, hasSiblings flags code⟩
  | any => some ⟨fun c => flags.dotAll || c != '\n', false⟩
  | set negated items =>
    some ⟨fun c => setHolds flags negated items c.toNat, items.any (·.caseMatters flags)⟩
  | seq first empty => first.single? flags
  | flagged change body => body.single? (flags.apply change)
  | _ => none

end Expr

/-- What the text has to go on with, as far as that shows without regard to case. -/
inductive Lead where
  | char (code : Nat)
  | test (accepts : Char → Bool)
  | undecided

/-- The text may go on in this way. -/
def Lead.admits : Lead → Text → Bool
  | undecided, _ => true
  | _, [] => false
  | char code, c :: _ => c.toNat == code
  | test accepts, c :: _ => accepts c

/-- What an expression asks of the text first. None stands for an expression that asks for
nothing. -/
def Expr.lead? (flags : Flags) : Expr → Option Lead
  | .empty => none
  | .char code => some (if caseMatters flags code then .undecided else .char code)
  | .set negated items =>
    some (if items.any (·.caseMatters flags) then .undecided
      else .test fun c => setHolds flags negated items c.toNat)
  | .seq first second =>
    match first.lead? flags with
    | some lead => some lead
    | none => second.lead? flags
  | .flagged change body => body.lead? (flags.apply change)
  | _ => some .undecided

end RoutePattern.Regex
