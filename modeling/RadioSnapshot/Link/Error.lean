/-!
# Failures of the link

What the system says when reading, writing or opening goes wrong, and what the
program makes of it. Every failure has one wording, which callers may put a
context in front of.
-/

namespace RadioSnapshot

/-- The kinds of failure that the system tells apart. -/
inductive IoErrorKind where
  | notFound
  | permissionDenied
  | connectionRefused
  | connectionReset
  | connectionAborted
  | notConnected
  | addressInUse
  | brokenPipe
  | alreadyExists
  | wouldBlock
  | isADirectory
  | invalidInput
  | invalidData
  | timedOut
  | writeZero
  | interrupted
  | unsupported
  | unexpectedEnd
  | outOfMemory
  | other
  deriving BEq, DecidableEq, Repr

/-- The wording of a failure about which nothing more is known. -/
def IoErrorKind.description : IoErrorKind → String
  | .notFound => "entity not found"
  | .permissionDenied => "permission denied"
  | .connectionRefused => "connection refused"
  | .connectionReset => "connection reset"
  | .connectionAborted => "connection aborted"
  | .notConnected => "not connected"
  | .addressInUse => "address in use"
  | .brokenPipe => "broken pipe"
  | .alreadyExists => "entity already exists"
  | .wouldBlock => "operation would block"
  | .isADirectory => "is a directory"
  | .invalidInput => "invalid input parameter"
  | .invalidData => "invalid data"
  | .timedOut => "timed out"
  | .writeZero => "write zero"
  | .interrupted => "operation interrupted"
  | .unsupported => "unsupported"
  | .unexpectedEnd => "unexpected end of file"
  | .outOfMemory => "out of memory"
  | .other => "other error"

/-- A failure reported by the system, with its own wording if it has one. -/
structure IoError where
  kind : IoErrorKind
  wording : Option String
  deriving BEq, DecidableEq, Repr

def IoError.message (error : IoError) : String :=
  error.wording.getD error.kind.description

/-- A failure of the link to the radio. -/
inductive LinkError where
  | opening (path : String) (cause : IoError)
  | io (cause : IoError)
  | closed
  deriving BEq, DecidableEq, Repr

def LinkError.message : LinkError → String
  | .opening path cause => "failed to open " ++ path ++ ": " ++ cause.message
  | .io cause => "transport I/O error: " ++ cause.message
  | .closed => "transport closed"

end RadioSnapshot
