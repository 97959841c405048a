import RadioSnapshot.Frame.Error

/-!
# Failures of a session
-/

namespace RadioSnapshot

/-- Why a session gave no report. -/
inductive SessionError where
  | frame (cause : FrameError)
  | link (cause : LinkError)
  | readerStart (cause : IoError)
  deriving BEq, DecidableEq, Repr

namespace SessionError

def message : SessionError → String
  | .frame cause => "frame error: " ++ cause.message
  | .link cause => "transport error: " ++ cause.message
  | .readerStart cause => "failed to spawn reader thread: " ++ cause.message

/-- The failure of the link underneath, if it is one. -/
def linkError? : SessionError → Option LinkError
  | .frame (.link cause) => some cause
  | .link cause => some cause
  | _ => none

end SessionError

end RadioSnapshot
