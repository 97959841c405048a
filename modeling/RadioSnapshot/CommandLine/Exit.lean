import RadioSnapshot.Session.Error

/-!
# Exit codes

Every failure of the program ends in a code and a message. The link is what the
program is about, so what goes wrong underneath it counts as a failure of the
link unless it is known better.
-/

namespace RadioSnapshot

/-- The codes that the program exits with. -/
inductive ExitCode where
  | success
  /-- The command line makes no sense. -/
  | refusedArguments
  | linkFailure
  | permissionDenied
  | invalidData
  /-- The command line makes sense, but not the value of an option. -/
  | invalidOptionValue
  | timeout
  | internalFailure
  | interrupted
  deriving BEq, DecidableEq, Repr

def ExitCode.number : ExitCode → Nat
  | .success => 0
  | .refusedArguments => 2
  | .linkFailure => 3
  | .permissionDenied => 50
  | .invalidData => 60
  | .invalidOptionValue => 64
  | .timeout => 124
  | .internalFailure => 125
  | .interrupted => 130

/-- Why the program stops, and with which code. -/
structure ExitError where
  code : ExitCode
  message : String
  deriving BEq, DecidableEq, Repr

/-- A failure with what was going on in front of it. -/
def IoError.exitError (context : String) (error : IoError) : ExitError where
  code := if error.kind = .permissionDenied then .permissionDenied else .linkFailure
  message := context ++ ": " ++ error.message

def LinkError.exitError (context : String) : LinkError → ExitError
  | .opening path cause => cause.exitError (context ++ ": " ++ path)
  | .io cause => cause.exitError context
  | .closed => ⟨.linkFailure, context ++ ": " ++ LinkError.closed.message⟩

def FrameError.exitError (context : String) : FrameError → ExitError
  | .link cause => cause.exitError context
  | .payloadTooLarge size limit =>
      ⟨.invalidData, context ++ ": " ++ (FrameError.payloadTooLarge size limit).message⟩

def SessionError.exitError (context : String) : SessionError → ExitError
  | .frame cause => cause.exitError context
  | .link cause => cause.exitError context
  | .readerStart cause => ⟨.internalFailure, context ++ ": " ++ cause.message⟩

end RadioSnapshot
