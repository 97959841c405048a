import RadioSnapshot.CommandLine.Help
import RadioSnapshot.CommandLine.Invocation
import RadioSnapshot.Link.Device
import RadioSnapshot.Report.Render
import RadioSnapshot.Session.Live

/-!
# The program

What the program prints and how it exits, given what it finds outside: the
recording that it is to replay, or the radio behind the port that it is to read.
-/

namespace RadioSnapshot

open Radio

/-- What the program finds outside. -/
structure Surroundings where
  environment : Environment
  /-- The recording at the path named on the command line. -/
  recording : Except IoError Device
  /-- The radio at the port named on the command line. -/
  radio : Except LinkError Answer
  /-- The time that a replay takes. -/
  replayTime : Duration

/-- What the program does. -/
structure Completion where
  code : ExitCode
  /-- The text on standard output. -/
  output : String
  /-- The lines on standard error. -/
  diagnostics : List String
  deriving BEq, DecidableEq, Repr

namespace Program

def name : String := "meshcfg"

def version : String := "0.1.0"

/-- A summary is made of whole lines; JSON and tables still lack the last line
feed. -/
def print (format : ReportFormat) (report : Report) : String :=
  match format with
  | .json => report.renderJson ++ "\n"
  | .table => report.renderTable ++ "\n"
  | .pretty => report.renderSummary

/-- Console lines as they are shown, if they are. -/
def consoleDiagnostics (shown : Bool) (lines : List String) : List String :=
  if shown then lines.map ("device: " ++ ·) else []

/-- An error stops the program. -/
def fail (console : List String) (error : ExitError) : Completion :=
  ⟨error.code, "", console ++ ["error: " ++ error.message]⟩

/-- A report is printed whether it is complete or not. -/
def finish (format : ReportFormat) (requireComplete : Bool) (incomplete : ExitCode)
    (console : List String) (report : Report) : Completion :=
  let code :=
    if requireComplete && !report.isComplete then incomplete else .success
  ⟨code, print format report, console⟩

def runReplay (format : ReportFormat) (command : ReplayCommand)
    (surroundings : Surroundings) : Completion :=
  match surroundings.recording with
  | .error error => fail [] (error.exitError ("cannot open capture " ++ command.path))
  | .ok recording =>
      let (result, lines) := replay .envelope .stream .collect recording []
        surroundings.replayTime
      let console := consoleDiagnostics command.showConsole lines
      match result with
      | .error error => fail console (error.exitError "replay failed")
      | .ok report => finish format command.requireComplete .invalidData console report

/-- The settings of a session, unless the options make no sense. -/
def sessionSettings (command : ReadCommand) : Except ExitError SessionSettings := do
  let deadline ← Duration.parse "timeout" command.timeout
  if deadline = .zero then .error ⟨.invalidOptionValue, "timeout must be greater than zero"⟩
  else
    let settle ← Duration.parse "settle" command.settle
    return { SessionSettings.standard with deadline, settle, sendWake := !command.noWake }

def runRead (format : ReportFormat) (command : ReadCommand) (surroundings : Surroundings) :
    Completion :=
  match sessionSettings command with
  | .error error => fail [] error
  | .ok settings =>
      match surroundings.radio with
      | .error error => fail [] (error.exitError "open failed")
      | .ok radio =>
          let (result, _, lines) := runSession settings .envelope .recorder .answer .collect
            ⟨[], none⟩ radio []
          let console := consoleDiagnostics command.showConsole lines
          match result with
          | .error error => fail console (error.exitError "session failed")
          | .ok report => finish format command.requireComplete .timeout console report

def versionLine : String :=
  name ++ " " ++ version ++ "\n"

/-- Name, version and the numbers that both ends of the link have to agree on. -/
def extendedVersion : String :=
  "name: " ++ name ++ "\n" ++
  "version: " ++ version ++ "\n" ++
  "protocol: max_frame=" ++ toString Frame.maxPayload ++
    " wake_len=" ++ toString Frame.wakeSequence.length ++
    " want_config_id=" ++ toString configRequestId.toNat ++ "\n"

/-- Help on the program, or on one of its commands. -/
def help (environment : Environment) (command : Option String) : String :=
  let lines :=
    match command.bind fun command => (Invocation.forms.lookup command).map (command, ·) with
    | none => Invocation.topForm.helpLines name environment
    | some (command, form) => form.helpLines (name ++ " " ++ command) environment
  String.join (lines.map (· ++ "\n"))

/-- Do what the command line asks for. -/
def run (invocation : Invocation) (surroundings : Surroundings) : Completion :=
  match invocation with
  | .refused => ⟨.refusedArguments, "", []⟩
  | .help command => ⟨.success, help surroundings.environment command, []⟩
  | .version => ⟨.success, versionLine, []⟩
  | .run format (.read command) => runRead format command surroundings
  | .run format (.replay command) => runReplay format command surroundings
  | .run _ (.version extended) =>
      ⟨.success, if extended then extendedVersion else versionLine, []⟩

end Program

end RadioSnapshot
