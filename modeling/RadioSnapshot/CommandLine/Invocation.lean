import RadioSnapshot.CommandLine.Arguments
import RadioSnapshot.CommandLine.DurationText
import RadioSnapshot.Link.Serial

/-!
# Invocations

What the words of the command line ask for. The options on format and logging may
stand before or behind the name of a command, and count behind it if they are
given twice.
-/

namespace RadioSnapshot

/-- How a report is printed. -/
inductive ReportFormat where
  | json
  | table
  | pretty
  deriving BEq, DecidableEq, Repr

def ReportFormat.all : List ReportFormat :=
  [.json, .table, .pretty]

def ReportFormat.name : ReportFormat → String
  | .json => "json"
  | .table => "table"
  | .pretty => "pretty"

/-- The format of a name. -/
def ReportFormat.ofName? (name : String) : Option ReportFormat :=
  all.find? (·.name == name)

/-- Reading from a radio on a serial port. -/
structure ReadCommand where
  port : String
  baudRate : Nat
  timeout : String
  settle : String
  noWake : Bool
  showConsole : Bool
  requireComplete : Bool
  deriving BEq, DecidableEq, Repr

/-- Replaying a recording. -/
structure ReplayCommand where
  path : String
  showConsole : Bool
  requireComplete : Bool
  deriving BEq, DecidableEq, Repr

inductive Command where
  | read (command : ReadCommand)
  | replay (command : ReplayCommand)
  | version (extended : Bool)
  deriving BEq, DecidableEq, Repr

inductive Invocation where
  | refused
  /-- Asks for help on the program or on one of its commands. -/
  | help (command : Option String)
  | version
  | run (format : ReportFormat) (command : Command)
  deriving BEq, DecidableEq, Repr

namespace Invocation

/-- A number of bauds: an integer, possibly signed, that fits in 32 bits. -/
def baudRate? (text : String) : Option Nat :=
  let rate := match text.toList with
    | '-' :: digits => (wordOfDigits? digits).filter (· == 0)
    | chars => wordOfText? chars
  rate.filter (· < 0x100000000)

def formatOption : OptionSpec :=
  .choice "format" "FORMAT" (ReportFormat.all.map ReportFormat.name) none "Output format"

def sharedOptions : List OptionSpec :=
  [ formatOption,
    .choice "log-format" "FORMAT" ["text", "json"] "text" "Log output format (stderr)",
    .choice "log-level" "LEVEL" ["error", "warn", "info", "debug", "trace"] "info"
      "Minimum log level (stderr)" ]

def consoleFlag : OptionSpec :=
  .flag "show-debug" "Echo the radio's debug console to stderr"

/-- The variable that names the port if the command line does not. -/
def portVariable : String := "MESHCFG_PORT"

def portOption : OptionSpec where
  name := "port"
  letter := 'p'
  value := some { placeholder := "PORT", variableName := portVariable, isRequired := true }
  about := "Serial port the radio is attached to"

def baudOption : OptionSpec where
  name := "baud"
  letter := 'b'
  value := some
    { placeholder := "BAUD", accepts := fun text => (baudRate? text).isSome
      fallback := toString SerialSettings.standard.baudRate }
  about := "Baud rate"

def timeoutOption : OptionSpec where
  name := "timeout"
  letter := none
  value := some { placeholder := "TIMEOUT", fallback := "15s" }
  about := "Time allowed for the whole exchange (e.g. 15s, 500ms)"

def settleOption : OptionSpec where
  name := "settle"
  letter := none
  value := some { placeholder := "SETTLE", fallback := "100ms" }
  about := "Pause between waking the radio and requesting its configuration"

def readForm : CommandForm where
  about := "Read the configuration from a radio on a serial port"
  ownOptions :=
    [ portOption, baudOption, timeoutOption, settleOption,
      .flag "no-wake" "Do not send the wake sequence first",
      consoleFlag,
      .flag "require-complete"
        "Exit with a timeout status when the configuration is incomplete" ]
  sharedOptions

def replayForm : CommandForm where
  about := "Assemble a configuration from a captured byte stream"
  ownOptions :=
    [ consoleFlag,
      .flag "require-complete"
        "Exit with a data-invalid status when the capture ends before completion" ]
  sharedOptions
  operands :=
    [⟨"<PATH>", fun path => !path.isEmpty, "Capture file holding raw bytes read from a radio"⟩]

def versionForm : CommandForm where
  about := "Show version information"
  ownOptions := [.flag "extended" "Show extended build provenance"]
  sharedOptions

/-- The command that shows help. It reads its words by itself. -/
def helpForm : CommandForm where
  about := "Print this message or the help of the given subcommand(s)"
  operands := [⟨"[COMMAND]...", fun _ => true, "Print help for the subcommand(s)"⟩]

/-- The commands, by name. -/
def forms : List (String × CommandForm) :=
  [("read", readForm), ("replay", replayForm), ("version", versionForm), ("help", helpForm)]

def topForm : CommandForm where
  about := "Mesh radio configuration reader"
  ownOptions := sharedOptions
  commands := forms.map fun (name, form) => (name, form.about)
  hasVersion := true

/-- The names of the variables that stand in for options left out. -/
def variableNames : List String :=
  (forms.flatMap fun (_, form) => form.options).filterMap fun option =>
    option.value.bind ValueSpec.variableName

def readCommand? (environment : Environment) (parameters : Parameters) : Option Command := do
  let port ← parameters.resolve? environment portOption
  let baudRate ← (parameters.resolve? environment baudOption).bind baudRate?
  let timeout ← parameters.resolve? environment timeoutOption
  let settle ← parameters.resolve? environment settleOption
  return .read
    { port, baudRate, timeout, settle
      noWake := parameters.has "no-wake"
      showConsole := parameters.has consoleFlag.name
      requireComplete := parameters.has "require-complete" }

def replayCommand? (parameters : Parameters) : Option Command := do
  let path ← parameters.operands.head?
  return .replay
    { path
      showConsole := parameters.has consoleFlag.name
      requireComplete := parameters.has "require-complete" }

/-- The command of a name that its parameters ask for. -/
def command? (environment : Environment) (parameters : Parameters) : String → Option Command
  | "read" => readCommand? environment parameters
  | "replay" => replayCommand? parameters
  | "version" => some (.version (parameters.has "extended"))
  | _ => none

/-- Help on the command that the words name. -/
def helpOn : List String → Invocation
  | [] => .help none
  | [name] => if (forms.lookup name).isSome then .help (some name) else .refused
  | _ => .refused

/-- What the words behind a command's name ask for. The format given there counts
before one given in front. -/
def ofCommand (environment : Environment) (shared : Parameters) (name : String)
    (words : List String) : Invocation :=
  if name = "help" then helpOn words
  else
    match forms.lookup name with
    | none => .refused
    | some form =>
        match form.read words .none with
        | .refused | .version | .command .. => .refused
        | .help => .help (some name)
        | .complete parameters =>
            match command? environment parameters name with
            | none => .refused
            | some command =>
                let format := ((parameters.get? formatOption.name).or
                  (shared.get? formatOption.name)).bind ReportFormat.ofName?
                .run (format.getD .json) command

/-- Words that make no sense as a whole still show help if they ask for it. -/
def onlyHelp : Invocation → Invocation
  | .help command => .help command
  | _ => .refused

/-- What the words after the program's name ask for. -/
def parse (environment : Environment) (words : List String) : Invocation :=
  match topForm.read words .none with
  | .refused | .complete _ => .refused
  | .help => .help none
  | .version => .version
  | .command (some shared) name words => ofCommand environment shared name words
  | .command none name words => onlyHelp (ofCommand environment .none name words)

end Invocation

end RadioSnapshot
