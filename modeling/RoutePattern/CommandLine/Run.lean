import RoutePattern.CommandLine.Arguments
import RoutePattern.CommandLine.Help
import RoutePattern.CommandLine.Json
import RoutePattern.Route

/-!
# Running the command line

The program has two commands: one takes a URL apart, the other matches a path against a route
pattern and prints its parameters. The whole run is a function from the arguments to what is
printed and the exit status.
-/
namespace RoutePattern.CommandLine

/-- What a run prints, and its exit status. -/
structure Outcome where
  status : Nat
  output : Text
  errors : Text
  deriving Repr, DecidableEq

/-- A run that succeeds. -/
def succeed (output : Text) : Outcome := ⟨0, output, []⟩

/-- A run that ends with an error of the domain. -/
def failWith (message : Text) : Outcome := ⟨1, [], "Error: ".toList ++ message ++ ['\n']⟩

/-- A run whose arguments are refused. -/
def refuse (usage program : String) (error : UsageError) : Outcome :=
  ⟨2, [], lines [usage] ++ program.toList ++ ": error: ".toList ++ error.message ++ ['\n']⟩

/-- A field of a URL as JSON. -/
def fieldJson : UrlField → Json
  | .text value => .text value
  | .flag value => .bool value
  | .table value => .object (value.entries.map fun entry => (entry.1, .text entry.2))

/-- A record of a URL as JSON. -/
def recordJson (record : UrlRecord) : Json :=
  .object (record.printedFields.map fun entry => (entry.1, fieldJson entry.2))

/-- A capture as JSON. -/
def captureJson : Option Text → Json
  | some text => .text text
  | none => .null

/-- A named value as JSON; without conversion every value is a text. -/
def valueJson : Datum → Json
  | .text value => .text value
  | _ => .null

/-- Parameters as JSON. -/
def paramsJson (params : Params) : Json := .object
  [("params".toList,
      .object (params.named.entries.map fun entry => (entry.1, valueJson entry.2))),
    ("positional".toList, .array (params.positional.map captureJson)),
    ("hash".toList, .text params.fragment)]

/-- JSON on lines of its own. -/
def printed (json : Json) : Text := json.render 0 ++ ['\n']

/-- Takes a URL apart. -/
def runParse (url : Text) : Outcome := succeed (printed (recordJson (UrlRecord.read url)))

/-- The settings that options ask for. -/
def settingsOf (roles : List OptionRole) : Settings :=
  { Settings.standard with
    sensitive := .bool (roles.contains .sensitive)
    strict := .bool (roles.contains .strict)
    whole := .bool (!roles.contains .firstSegments) }

/-- Matches a path against a pattern. A number in the pattern that is too large to be read is no
error of the domain and ends the run. -/
def runMatch (roles : List OptionRole) (pattern path : Text) : Except CompileError Outcome :=
  match Route.make (.pattern pattern) (settingsOf roles) [] with
  | .error (.pattern error) => .ok (failWith error.message)
  | .error error => .error error
  | .ok route =>
    match route.params path false with
    | .ok params => .ok (succeed (printed (paramsJson params)))
    | .error error => .ok (failWith error.message)

/-- The option that asks for help. -/
def helpOption : OptionSpec := ⟨["-h", "--help"], .help⟩

/-- The options of the program itself. -/
def programOptions : List OptionSpec := [helpOption]

/-- The options of the command that matches a path. -/
def matchOptions : List OptionSpec :=
  [helpOption, ⟨["--sensitive"], .sensitive⟩, ⟨["--strict"], .strict⟩,
    ⟨["--prefix"], .firstSegments⟩]

/-- A command of the program. -/
structure Command where
  name : String
  usage : String
  help : Text
  options : List OptionSpec
  operands : List String
  /-- What the command does with its options and operands. -/
  run : List OptionRole → List Text → Except CompileError Outcome

/-- The operand at a place. -/
def operandAt (operands : List Text) (place : Nat) : Text := operands[place]?.getD []

/-- The commands of the program. -/
def commands : List Command :=
  [{ name := "parse"
     usage := parseUsage
     help := parseHelp
     options := [helpOption]
     operands := ["url"]
     run := fun _ operands => .ok (runParse (operandAt operands 0)) },
    { name := "match"
      usage := matchUsage
      help := matchHelp
      options := matchOptions
      operands := ["pattern", "path"]
      run := fun roles operands => runMatch roles (operandAt operands 0) (operandAt operands 1) }]

/-- Refuses arguments of the program. -/
def refuseProgram (error : UsageError) : Outcome := refuse programUsage "routeurl" error

/-- Refuses arguments of a command. -/
def refuseCommand (command : Command) (error : UsageError) : Outcome :=
  refuse command.usage ("routeurl " ++ command.name) error

/-- Runs a command with its arguments. Arguments that nothing knows, among them those in front of
the command, are reported before the command does anything. -/
def runCommand (command : Command) (extras arguments : List Text) : Except CompileError Outcome :=
  match classifyAll command.options arguments with
  | .error error => .ok (refuseCommand command error)
  | .ok classified =>
    let names := command.operands.map String.toList
    match take command.options names false false ⟨[], [], []⟩ classified with
    | .refused error => .ok (refuseCommand command error)
    | .help => .ok (succeed command.help)
    | .taken taken =>
      let extras := extras ++ taken.extras
      if extras.isEmpty then command.run taken.roles taken.operands
      else .ok (refuseProgram (.unrecognized extras))

/-- Runs the command of a name. -/
def runNamed (extras : List Text) (name : Text) (arguments : List Text) :
    Except CompileError Outcome :=
  match commands.find? fun command => command.name.toList == name with
  | some command => runCommand command extras arguments
  | none => .ok (refuseProgram
      (.invalidCommand name (commands.map fun command => command.name.toList)))

/-- Takes the arguments in front of the command. Each comes with what it is told to be; the first
operand is the command, and so is a separator with anything after it. -/
def dispatch (extras : List Text) : List (Text × Argument) → Except CompileError Outcome
  | [] =>
    if extras.isEmpty then .ok (succeed programHelp)
    else .ok (refuseProgram (.unrecognized extras))
  | (text, .operand _) :: rest => runNamed extras text (rest.map (·.1))
  | (text, .separator) :: rest =>
    if rest.isEmpty then dispatch (extras ++ [text]) rest
    else runNamed extras text (rest.map (·.1))
  | (text, .unknown _) :: rest => dispatch (extras ++ [text]) rest
  | (_, .option spec name value) :: _ =>
    match outcome programOptions spec name value with
    | .refused error => .ok (refuseProgram error)
    | .role _ => .ok (succeed programHelp)

/-- Runs the program with its arguments. -/
def run (arguments : List Text) : Except CompileError Outcome :=
  match classifyAll programOptions arguments with
  | .error error => .ok (refuseProgram error)
  | .ok classified => dispatch [] (arguments.zip classified)

end RoutePattern.CommandLine
