import RadioSnapshot.Link.Error

/-!
# Failures of framing
-/

namespace RadioSnapshot

/-- Why a frame was not sent or received. -/
inductive FrameError where
  | payloadTooLarge (size limit : Nat)
  | link (cause : LinkError)
  deriving BEq, DecidableEq, Repr

def FrameError.message : FrameError → String
  | .payloadTooLarge size limit => s!"payload too large ({size} bytes, max {limit})"
  | .link cause => "frame transport error: " ++ cause.message

end RadioSnapshot
