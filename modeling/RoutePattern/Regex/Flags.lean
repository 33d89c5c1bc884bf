/-!
# Flags of a regular expression

Flags hold for a whole expression or for a part of it. A change turns some flags on and others
off; naming an alphabet replaces the alphabet in force.
-/
namespace RoutePattern.Regex

/-- The flags in force at a place of an expression. -/
structure Flags where
  /-- Letters of either case count as the same. -/
  ignoreCase : Bool
  /-- The line anchors hold at every line. -/
  multiline : Bool
  /-- The dot also stands for a line end. -/
  dotAll : Bool
  /-- Blanks and comments in the expression count for nothing. -/
  verbose : Bool
  /-- Character classes and letter cases are those of ASCII. -/
  ascii : Bool
  deriving Repr, DecidableEq, Inhabited

namespace Flags

/-- No flag. -/
def none : Flags := ⟨false, false, false, false, false⟩

end Flags

/-- A letter that names a flag inside an expression. -/
inductive FlagName where
  | ignoreCase
  | locale
  | multiline
  | dotAll
  | verbose
  | ascii
  | template
  | unicode
  deriving Repr, DecidableEq

namespace FlagName

/-- The flag that a letter names. -/
def ofChar? : Char → Option FlagName
  | 'i' => some ignoreCase
  | 'L' => some locale
  | 'm' => some multiline
  | 's' => some dotAll
  | 'x' => some verbose
  | 'a' => some ascii
  | 't' => some template
  | 'u' => some unicode
  | _ => .none

/-- The flag names an alphabet. -/
def isAlphabet : FlagName → Bool
  | ascii | locale | unicode => true
  | _ => false

end FlagName

/-- A change of flags for a part of an expression. -/
structure FlagChange where
  on : List FlagName
  off : List FlagName
  deriving Repr, DecidableEq

namespace Flags

/-- The flags with one more flag on. -/
def turnOn (flags : Flags) : FlagName → Flags
  | .ignoreCase => { flags with ignoreCase := true }
  | .multiline => { flags with multiline := true }
  | .dotAll => { flags with dotAll := true }
  | .verbose => { flags with verbose := true }
  | .ascii => { flags with ascii := true }
  | .unicode => { flags with ascii := false }
  | .locale | .template => flags

/-- The flags with one flag off. -/
def turnOff (flags : Flags) : FlagName → Flags
  | .ignoreCase => { flags with ignoreCase := false }
  | .multiline => { flags with multiline := false }
  | .dotAll => { flags with dotAll := false }
  | .verbose => { flags with verbose := false }
  | .ascii | .unicode | .locale | .template => flags

/-- The flags after a change. -/
def apply (flags : Flags) (change : FlagChange) : Flags :=
  change.off.foldl turnOff (change.on.foldl turnOn flags)

end Flags

end RoutePattern.Regex
