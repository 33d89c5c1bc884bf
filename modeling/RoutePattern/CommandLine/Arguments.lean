import RoutePattern.Text.Quoted
import RoutePattern.Unicode.Digit

/-!
# Command-line arguments

Arguments are told apart before any of them is acted on: options begin with a hyphen, operands do
not, and after two hyphens alone there are operands only. A long option may be shortened as long
as it stays unique. Then the arguments are taken in order. What no command knows is collected and
reported at the end.
-/
namespace RoutePattern.CommandLine

/-- What an option asks for. -/
inductive OptionRole where
  | help
  | sensitive
  | strict
  | firstSegments
  deriving Repr, DecidableEq

/-- An option under its names. -/
structure OptionSpec where
  names : List String
  role : OptionRole
  deriving Repr, DecidableEq

/-- An option as messages call it. -/
def OptionSpec.label (spec : OptionSpec) : Text :=
  Text.join ['/'] (spec.names.map String.toList)

/-- An argument that has been told apart. -/
inductive Argument where
  | operand (text : Text)
  /-- Two hyphens alone, after which there are operands only. -/
  | separator
  /-- A known option, the name it is known by, and the value given with it: after an equals sign
  or right after the letter of a short option. -/
  | option (spec : OptionSpec) (name : Text) (value : Option Text)
  | unknown (text : Text)
  deriving Repr, DecidableEq

/-- Why arguments are refused. -/
inductive UsageError where
  | ambiguous (option : Text) (candidates : List Text)
  | unexpectedValue (option value : Text)
  | missing (operands : List Text)
  | invalidCommand (command : Text) (choices : List Text)
  | unrecognized (arguments : List Text)
  deriving Repr, DecidableEq

namespace UsageError

/-- The wording of an error. -/
def message : UsageError → Text
  | ambiguous option candidates =>
    "ambiguous option: ".toList ++ option ++ " could match ".toList ++
      Text.join [',', ' '] candidates
  | unexpectedValue option value =>
    "argument ".toList ++ option ++ ": ignored explicit argument ".toList ++ Text.quoted value
  | missing operands =>
    "the following arguments are required: ".toList ++ Text.join [',', ' '] operands
  | invalidCommand command choices =>
    "argument command: invalid choice: ".toList ++ Text.quoted command ++
      " (choose from ".toList ++ Text.join [',', ' '] (choices.map Text.quoted) ++ [')']
  | unrecognized arguments =>
    "unrecognized arguments: ".toList ++ Text.join [' '] arguments

end UsageError

/-- The options with their names, one entry for each name. -/
def namedOptions (options : List OptionSpec) : List (Text × OptionSpec) :=
  options.flatMap fun spec => spec.names.map fun name => (name.toList, spec)

/-- The text before the first equals sign and, if there is one, the text after it. -/
def splitValue (argument : Text) : Text × Option Text :=
  match argument.span (· != '=') with
  | (name, _ :: value) => (name, some value)
  | (name, []) => (name, none)

/-- The options that an argument may be a shorter or longer form of. -/
def candidates (options : List OptionSpec) (argument : Text) : List Argument :=
  if argument.take 2 == ['-', '-'] then
    let (start, value) := splitValue argument
    (namedOptions options).filterMap fun (name, spec) =>
      if start.isPrefixOf name then some (.option spec name value) else none
  else
    (namedOptions options).filterMap fun (name, spec) =>
      if name == argument.take 2 then some (.option spec name (some (argument.drop 2)))
      else if argument.isPrefixOf name then some (.option spec name none)
      else none

/-- A digit of any script. -/
def isDigit (c : Char) : Bool := Unicode.isDigit c.toNat

/-- A text without one line end at its end. -/
def chomp (text : Text) : Text := if text.getLast? == some '\n' then text.dropLast else text

/-- A negative number, with or without a point. -/
def isNegativeNumber : Text → Bool
  | '-' :: rest =>
    let (whole, after) := (chomp rest).span isDigit
    match after with
    | [] => !whole.isEmpty
    | '.' :: part => !part.isEmpty && part.all isDigit
    | _ => false
  | _ => false

/-- The name under which an option is known. -/
def optionName : Argument → Text
  | .option _ name _ => name
  | .operand text | .unknown text => text
  | .separator => ['-', '-']

/-- Tells what an argument before any separator is. -/
def classify (options : List OptionSpec) (argument : Text) : Except UsageError Argument :=
  let (start, value) := splitValue argument
  if argument.head? != some '-' then .ok (.operand argument)
  else match (namedOptions options).lookup argument with
    | some spec => .ok (.option spec argument none)
    | none =>
      if argument.length == 1 then .ok (.operand argument)
      else match value, (namedOptions options).lookup start with
        | some value, some spec => .ok (.option spec start (some value))
        | _, _ =>
          match candidates options argument with
          | [found] => .ok found
          | [] =>
            if isNegativeNumber argument || argument.contains ' ' then .ok (.operand argument)
            else .ok (.unknown argument)
          | found => .error (.ambiguous argument (found.map optionName))

/-- Tells what each argument is. -/
def classifyAll (options : List OptionSpec) : List Text → Except UsageError (List Argument)
  | [] => .ok []
  | argument :: rest =>
    if argument == ['-', '-'] then .ok (.separator :: rest.map .operand)
    else do
      let first ← classify options argument
      let others ← classifyAll options rest
      pure (first :: others)

/-- What an option comes to. -/
inductive OptionOutcome where
  | role (role : OptionRole)
  | refused (error : UsageError)
  deriving Repr, DecidableEq

/-- What no option takes of a row of letters after a short option: letters are further short
options, up to the first that is not known. -/
def refusedValue? (options : List OptionSpec) : Text → Option Text
  | [] => none
  | c :: rest =>
    if ((namedOptions options).lookup ['-', c]).isSome then refusedValue? options rest
    else some (c :: rest)

/-- What an option with a value comes to: options take no values, but a short option can be
followed by further ones. -/
def outcome (options : List OptionSpec) (spec : OptionSpec) (name : Text) :
    Option Text → OptionOutcome
  | none => .role spec.role
  | some value =>
    if name.take 2 == ['-', '-'] || value.isEmpty then
      .refused (.unexpectedValue spec.label value)
    else match refusedValue? options value with
      | some value => .refused (.unexpectedValue spec.label value)
      | none => .role spec.role

/-- What has been taken from the arguments of a command. -/
structure Taken where
  /-- Operands in the order of their names. -/
  operands : List Text
  /-- Options other than the one for help. -/
  roles : List OptionRole
  extras : List Text
  deriving Repr, DecidableEq

/-- How taking arguments ends. -/
inductive Ending where
  | taken (taken : Taken)
  | help
  | refused (error : UsageError)
  deriving Repr, DecidableEq

/-- A separator belongs to the operand before it or after it, as long as that operand has a
name. -/
def separatorCounts (afterOperand : Bool) (names : List Text) (rest : List Argument) : Bool :=
  afterOperand || (!names.isEmpty && !rest.isEmpty)

/-- The value of an operand. Two hyphens that come after a separator and its operand count for
nothing. -/
def operandValue (afterSeparator : Bool) (text : Text) : Text :=
  if text == ['-', '-'] && !afterSeparator then [] else text

/-- Takes the arguments of a command with its options, whose operands have the given names. -/
def take (options : List OptionSpec) (names : List Text) (afterOperand afterSeparator : Bool)
    (taken : Taken) : List Argument → Ending
  | [] => if names.isEmpty then .taken taken else .refused (.missing names)
  | .operand text :: rest =>
    match names with
    | [] => take options [] false false { taken with extras := taken.extras ++ [text] } rest
    | _ :: names =>
      take options names true false
        { taken with operands := taken.operands ++ [operandValue afterSeparator text] } rest
  | .separator :: rest =>
    if separatorCounts afterOperand names rest then
      take options names false (!afterOperand) taken rest
    else take options names false false { taken with extras := taken.extras ++ [['-', '-']] } rest
  | .unknown text :: rest =>
    take options names false false { taken with extras := taken.extras ++ [text] } rest
  | .option spec name value :: rest =>
    match outcome options spec name value with
    | .refused error => .refused error
    | .role .help => .help
    | .role role =>
      take options names false false { taken with roles := taken.roles ++ [role] } rest

end RoutePattern.CommandLine
