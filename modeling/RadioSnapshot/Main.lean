import RadioSnapshot.CommandLine.Program

/-!
# Command line

Looks up what the command line names, a recording or a serial port, and leaves
everything else to the program.
-/

open RadioSnapshot

/-- What the system says of a failure: its number, its words, and the kind that the
program tells apart. -/
structure SystemReport where
  number : UInt32
  words : String
  kind : IoErrorKind

namespace SystemReport

def ofError : IO.Error → SystemReport
  | .noFileOrDirectory _ number words => ⟨number, words, .notFound⟩
  | .permissionDenied _ number words => ⟨number, words, .permissionDenied⟩
  | .interrupted _ number words => ⟨number, words, .interrupted⟩
  | .alreadyExists _ number words => ⟨number, words, .alreadyExists⟩
  | .inappropriateType _ number words => ⟨number, words, .isADirectory⟩
  | .invalidArgument _ number words => ⟨number, words, .invalidInput⟩
  | .timeExpired number words => ⟨number, words, .timedOut⟩
  | .unsupportedOperation number words => ⟨number, words, .unsupported⟩
  | .otherError number words | .resourceBusy number words | .resourceVanished number words
  | .hardwareFault number words | .unsatisfiedConstraints number words
  | .illegalOperation number words | .protocolError number words
  | .resourceExhausted _ number words | .noSuchThing _ number words =>
      ⟨number, words, .other⟩
  | .unexpectedEof => ⟨0, IoErrorKind.unexpectedEnd.description, .unexpectedEnd⟩
  | .userError words => ⟨0, words, .other⟩

/-- Files are reported on with the number of the failure. -/
def ofFile (report : SystemReport) : IoError :=
  ⟨report.kind, some (report.words ++ " (os error " ++ toString report.number ++ ")")⟩

/-- Serial ports are reported on in words alone. -/
def ofPort (report : SystemReport) : IoError :=
  ⟨report.kind, some report.words⟩

end SystemReport

/-- The recording at a path. One that opens but cannot be read fails when it is
replayed. -/
def loadRecording (path : String) : IO (Except IoError Device) := do
  match ← (IO.FS.Handle.mk path .read).toBaseIO with
  | .error error => return .error (SystemReport.ofError error).ofFile
  | .ok handle =>
      match ← handle.readBinToEnd.toBaseIO with
      | .error error =>
          return .ok (.ofScript [.failure (SystemReport.ofError error).ofFile])
      | .ok content => return .ok (.ofScript [.data content.data.toList])

/-- Lines of serial ports are set up outside the program, so a port can only be
missing or unusable. -/
def probePort (path : String) : IO LinkError := do
  match ← (IO.FS.Handle.mk path .readWrite).toBaseIO with
  | .error error => return .opening path (SystemReport.ofError error).ofPort
  | .ok handle =>
      if ← handle.isTty then return .opening path ⟨.unsupported, none⟩
      else return .opening path ⟨.other, some "Not a typewriter"⟩

/-- The variables that commands know, as far as they are set. -/
def readEnvironment : IO Environment := do
  let settings ← Invocation.variableNames.mapM fun name => do
    return (← IO.getEnv name).map (name, ·)
  return settings.filterMap id

/-- What the program finds outside for this invocation. -/
def lookAround (environment : Environment) (invocation : Invocation) : IO Surroundings := do
  let recording ← match invocation with
    | .run _ (.replay command) => loadRecording command.path
    | _ => pure (.ok (.ofScript []))
  let failure ← match invocation with
    | .run _ (.read command) => probePort command.port
    | _ => pure .closed
  return { environment, recording, radio := .error failure, replayTime := .zero }

def main (words : List String) : IO UInt32 := do
  let environment ← readEnvironment
  let invocation := Invocation.parse environment words
  let completion := Program.run invocation (← lookAround environment invocation)
  for line in completion.diagnostics do
    IO.eprintln line
  IO.print completion.output
  return UInt32.ofNat completion.code.number
