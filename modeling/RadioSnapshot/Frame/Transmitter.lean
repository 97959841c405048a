import RadioSnapshot.Frame.Basic
import RadioSnapshot.Frame.Error
import RadioSnapshot.Link.Sink

/-!
# Sending frames

A transmitter puts every frame together in one buffer, which it clears before, and
gives it to its sink in one piece; the wake sequence goes to the sink as it is. A
payload too large for a frame is refused before anything is written.
-/

namespace RadioSnapshot

/-- Put the frame of a payload behind what a buffer holds. A payload that is too
large leaves the buffer as it is. -/
def Frame.encode (payload buffer : List UInt8) : Except FrameError Unit × List UInt8 :=
  if maxPayload < payload.length then
    (.error (.payloadTooLarge payload.length maxPayload), buffer)
  else (.ok (), buffer ++ header payload.length ++ payload)

/-- A sender of frames: the state of its sink, and the buffer that it uses over and
over. -/
structure Transmitter (κ : Type) where
  link : κ
  buffer : List UInt8
  deriving BEq, DecidableEq, Repr

namespace Transmitter

variable {κ : Type}

def new (link : κ) : Transmitter κ :=
  ⟨link, []⟩

/-- Give bytes to the sink. -/
def write (sink : ByteSink κ) (bytes : List UInt8) (transmitter : Transmitter κ) :
    Except FrameError Unit × Transmitter κ :=
  match sink.write bytes transmitter.link with
  | (.ok (), link) => (.ok (), { transmitter with link })
  | (.error error, link) => (.error (.link error), { transmitter with link })

/-- Send the wake sequence. -/
def wake (sink : ByteSink κ) (transmitter : Transmitter κ) :
    Except FrameError Unit × Transmitter κ :=
  transmitter.write sink Frame.wakeSequence

/-- Forget what the buffer holds. -/
def clear (transmitter : Transmitter κ) : Transmitter κ :=
  { transmitter with buffer := [] }

/-- Send a payload in a frame. -/
def send (sink : ByteSink κ) (payload : List UInt8) (transmitter : Transmitter κ) :
    Except FrameError Unit × Transmitter κ :=
  let cleared := transmitter.clear
  match Frame.encode payload cleared.buffer with
  | (.error error, buffer) => (.error error, { cleared with buffer })
  | (.ok (), buffer) => { cleared with buffer }.write sink buffer

end Transmitter

end RadioSnapshot
