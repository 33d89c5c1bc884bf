import RoutePattern.Regex.Fault

/-!
# Errors of route patterns
-/
namespace RoutePattern

/-- Why a route pattern is malformed. -/
inductive PatternError where
  /-- A group without a closing parenthesis. -/
  | unbalancedGroup (position : Nat) (pattern : Text)
  | emptyGroup (position : Nat) (pattern : Text)
  /-- A closing parenthesis outside of groups. -/
  | strayParenthesis (pattern : Text)
  | emptyName (pattern : Text)
  | unknownConverter (converter name pattern : Text) (known : List Text)
  /-- The regular expression of the pattern has a fault. -/
  | invalidRegex (pattern source : Text) (fault : Regex.Fault) (position : Option Nat)
  /-- A regular expression of a parameter defines named groups. -/
  | namedGroups (pattern : Text)
  /-- A strict pattern ends in a slash, which no normalized path does. -/
  | unreachable (pattern : Text)
  deriving Repr, DecidableEq

namespace PatternError

/-- The wording of an error. -/
def message : PatternError → Text
  | unbalancedGroup position pattern =>
    "Unbalanced group at position ".toList ++ Text.ofNat position ++ " in pattern ".toList ++
      Text.quoted pattern ++ ['.']
  | emptyGroup position pattern =>
    "Empty group at position ".toList ++ Text.ofNat position ++ " in pattern ".toList ++
      Text.quoted pattern ++ ['.']
  | strayParenthesis pattern =>
    "Unbalanced ')' in pattern ".toList ++ Text.quoted pattern ++
      ". Escape it as \\) to match it literally.".toList
  | emptyName pattern =>
    "Empty parameter name in pattern ".toList ++ Text.quoted pattern ++ ['.']
  | unknownConverter converter name pattern known =>
    "Unknown converter ".toList ++ Text.quoted converter ++ " for parameter ".toList ++
      Text.quoted name ++ " in pattern ".toList ++ Text.quoted pattern ++
      ". Known converters: ".toList ++ Text.join [',', ' '] known
  | invalidRegex pattern source fault position =>
    "Invalid pattern ".toList ++ Text.quoted pattern ++ ": ".toList ++
      Regex.faultMessage source fault position
  | namedGroups pattern =>
    "Pattern ".toList ++ Text.quoted pattern ++
      (" has named groups inside a parameter regex. " ++
        "Name the parameter itself instead.").toList
  | unreachable pattern =>
    "Strict pattern ".toList ++ Text.quoted pattern ++
      (" ends with '/' but matched paths are normalized without a trailing slash, " ++
        "so it can never match.").toList

end PatternError

/-- Why a route is not compiled: its pattern is malformed, a number in it is too large to be read,
or its flags contradict each other. -/
inductive CompileError where
  | pattern (error : PatternError)
  | repetitionTooLarge
  | tooManyDigits (count : Nat)
  | codePointTooLarge
  | conflictingAlphabets
  deriving Repr, DecidableEq

/-- The wording for an integer with too many digits to be read. -/
def tooManyDigitsMessage (count : Nat) : Text :=
  "Exceeds the limit (4300 digits) for integer string conversion: value has ".toList ++
    Text.ofNat count ++
    " digits; use sys.set_int_max_str_digits() to increase the limit".toList

namespace CompileError

/-- The wording of an error. -/
def message : CompileError → Text
  | pattern error => error.message
  | repetitionTooLarge => "the repetition number is too large".toList
  | tooManyDigits count => tooManyDigitsMessage count
  | codePointTooLarge => "Python int too large to convert to C int".toList
  | conflictingAlphabets => "ASCII and UNICODE flags are incompatible".toList

/-- The error of a regular expression that is refused. -/
def ofRefusal (routePattern source : Text) : Regex.Refusal → CompileError
  | .fault fault position => .pattern (.invalidRegex routePattern source fault position)
  | .repetitionTooLarge => .repetitionTooLarge
  | .tooManyDigits count => .tooManyDigits count
  | .codePointTooLarge => .codePointTooLarge
  | .conflictingAlphabets => .conflictingAlphabets

end CompileError

end RoutePattern
