import RoutePattern.Text.Quoted

/-!
# Faults of regular expressions

What can be wrong with the source of a regular expression, and the wording of each fault. A fault
has a position, counted in characters; in a source of several lines the message adds line and
column. Apart from faults there are numbers too large to be read at all, and flags
that contradict each other.
-/
namespace RoutePattern.Regex

/-- What is wrong with a source. -/
inductive Fault where
  | nothingToRepeat
  | multipleRepeat
  | repeatBoundsReversed
  | danglingEscape
  | badEscape (escape : Text)
  | incompleteEscape (escape : Text)
  | octalOutOfRange (escape : Text)
  | undefinedCharacterName (name : Text)
  | badRange (low high : Text)
  | unterminatedSet
  | unterminatedComment
  | unterminatedGroup
  | unbalancedParenthesis
  | unexpectedEnd
  | unknownExtension (extension : Text)
  | missing (what : String)
  | unterminatedName (terminator : Char)
  | badGroupName (name : Text)
  | unknownGroupName (name : Text)
  | redefinedGroupName (name : Text) (group earlier : Nat)
  | badGroupNumber
  | invalidGroupReference (group : Nat)
  | openGroupReference
  | lookbehindGroupReference
  | extraConditionalBranch
  | misplacedGlobalFlags
  | unknownFlag
  | localeFlag
  | incompatibleAlphabets
  | fixedAlphabet
  | globalFlagOn
  | globalFlagOff
  | flagOnAndOff
  | lookbehindNotFixed
  deriving Repr, DecidableEq

namespace Fault

/-- The wording of a fault. -/
def message : Fault → Text
  | nothingToRepeat => "nothing to repeat".toList
  | multipleRepeat => "multiple repeat".toList
  | repeatBoundsReversed => "min repeat greater than max repeat".toList
  | danglingEscape => "bad escape (end of pattern)".toList
  | badEscape escape => "bad escape ".toList ++ escape
  | incompleteEscape escape => "incomplete escape ".toList ++ escape
  | octalOutOfRange escape =>
    "octal escape value ".toList ++ escape ++ " outside of range 0-0o377".toList
  | undefinedCharacterName name => "undefined character name ".toList ++ Text.quoted name
  | badRange low high => "bad character range ".toList ++ low ++ '-' :: high
  | unterminatedSet => "unterminated character set".toList
  | unterminatedComment => "missing ), unterminated comment".toList
  | unterminatedGroup => "missing ), unterminated subpattern".toList
  | unbalancedParenthesis => "unbalanced parenthesis".toList
  | unexpectedEnd => "unexpected end of pattern".toList
  | unknownExtension extension => "unknown extension ".toList ++ extension
  | missing what => "missing ".toList ++ what.toList
  | unterminatedName terminator =>
    "missing ".toList ++ terminator :: ", unterminated name".toList
  | badGroupName name => "bad character in group name ".toList ++ Text.quoted name
  | unknownGroupName name => "unknown group name ".toList ++ Text.quoted name
  | redefinedGroupName name group earlier =>
    "redefinition of group name ".toList ++ Text.quoted name ++ " as group ".toList ++
      Text.ofNat group ++ "; was group ".toList ++ Text.ofNat earlier
  | badGroupNumber => "bad group number".toList
  | invalidGroupReference group => "invalid group reference ".toList ++ Text.ofNat group
  | openGroupReference => "cannot refer to an open group".toList
  | lookbehindGroupReference =>
    "cannot refer to group defined in the same lookbehind subpattern".toList
  | extraConditionalBranch => "conditional backref with more than two branches".toList
  | misplacedGlobalFlags => "global flags not at the start of the expression".toList
  | unknownFlag => "unknown flag".toList
  | localeFlag => "bad inline flags: cannot use 'L' flag with a str pattern".toList
  | incompatibleAlphabets =>
    "bad inline flags: flags 'a', 'u' and 'L' are incompatible".toList
  | fixedAlphabet => "bad inline flags: cannot turn off flags 'a', 'u' and 'L'".toList
  | globalFlagOn => "bad inline flags: cannot turn on global flag".toList
  | globalFlagOff => "bad inline flags: cannot turn off global flag".toList
  | flagOnAndOff => "bad inline flags: flag turned on and off".toList
  | lookbehindNotFixed => "look-behind requires fixed-width pattern".toList

end Fault

/-- Why a source is refused. -/
inductive Refusal where
  /-- A fault, at a position where it has one. -/
  | fault (fault : Fault) (position : Option Nat)
  /-- A count of repetitions that is too large. -/
  | repetitionTooLarge
  /-- A number with too many digits to be read. -/
  | tooManyDigits (count : Nat)
  /-- An escape for a code point far beyond all characters. -/
  | codePointTooLarge
  /-- Flags of the whole expression that name different alphabets one after the other. -/
  | conflictingAlphabets
  deriving Repr, DecidableEq

/-- The column of a position: its distance from the last line end before it. -/
def column (source : Text) (position : Nat) : Nat :=
  ((source.take position).reverse.takeWhile (· != '\n')).length + 1

/-- The line of a position, counted from one. -/
def line (source : Text) (position : Nat) : Nat := (source.take position).count '\n' + 1

/-- The wording of a fault with its position in a source. -/
def faultMessage (source : Text) (fault : Fault) : Option Nat → Text
  | none => fault.message
  | some position =>
    fault.message ++ " at position ".toList ++ Text.ofNat position ++
      if source.contains '\n' then
        " (line ".toList ++ Text.ofNat (line source position) ++ ", column ".toList ++
          Text.ofNat (column source position) ++ ")".toList
      else []

end RoutePattern.Regex
