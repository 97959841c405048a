import RadioSnapshot.Frame.Basic

/-!
# Finding frames in a stream

The link carries frames and console text on one line. The deframer looks at each
byte once: it is idle until a first magic byte, then collects a header and a
payload. As soon as the bytes collected cannot be a frame any more they are given
back as stray bytes, all of them, and none of them is looked at again.
-/

namespace RadioSnapshot

/-- How far a frame has been received. -/
inductive Deframer where
  | idle
  /-- The first magic byte. -/
  | started
  /-- Both magic bytes. -/
  | magic
  /-- The magic bytes and half of the length. -/
  | length (high : UInt8)
  /-- The header, the number of bytes at which the frame is complete, and part of the
  payload. -/
  | body (high low : UInt8) (target : Nat) (received : Array UInt8)
  deriving DecidableEq, Repr

namespace Deframer

/-- What one byte leads to. -/
inductive Event where
  | pending
  | frame (frame : Frame)
  | stray (bytes : List UInt8)
  deriving BEq, DecidableEq, Repr

/-- Look at one byte. Headers that declare more than `limit` bytes are stray, and
an empty frame is complete with its header. -/
def push (limit : Nat) (byte : UInt8) : Deframer → Event × Deframer
  | .idle =>
      if byte = Frame.firstMagic then (.pending, .started) else (.stray [byte], .idle)
  | .started =>
      if byte = Frame.secondMagic then (.pending, .magic)
      else (.stray [Frame.firstMagic, byte], .idle)
  | .magic => (.pending, .length byte)
  | .length high =>
      let declared := Frame.declaredLength high byte
      if limit < declared then
        (.stray [Frame.firstMagic, Frame.secondMagic, high, byte], .idle)
      else if declared = 0 then (.frame ⟨[]⟩, .idle)
      else (.pending, .body high byte (Frame.headerSize + declared) #[])
  | .body high low target received =>
      let received := received.push byte
      if target ≤ Frame.headerSize + received.size then (.frame ⟨received.toList⟩, .idle)
      else (.pending, .body high low target received)

/-- The bytes collected and not yet given out. -/
def held : Deframer → List UInt8
  | .idle => []
  | .started => [Frame.firstMagic]
  | .magic => [Frame.firstMagic, Frame.secondMagic]
  | .length high => [Frame.firstMagic, Frame.secondMagic, high]
  | .body high low _ received =>
      Frame.firstMagic :: Frame.secondMagic :: high :: low :: received.toList

/-- The number of those bytes. -/
def buffered : Deframer → Nat
  | .idle => 0
  | .started => 1
  | .magic => 2
  | .length _ => 3
  | .body _ _ _ received => Frame.headerSize + received.size

/-- The number of bytes at which the frame is complete, or zero as long as its length is not
known. -/
def target : Deframer → Nat
  | .body _ _ target _ => target
  | _ => 0

@[simp] theorem length_held (deframer : Deframer) :
    deframer.held.length = deframer.buffered := by
  cases deframer with
  | body high low target received =>
      simp only [held, buffered, Frame.headerSize, List.length_cons, Array.length_toList]
      omega
  | _ => rfl

/-- The bytes on the wire that an event accounts for. -/
def Event.wire : Event → List UInt8
  | .pending => []
  | .frame complete => complete.wire
  | .stray bytes => bytes

/-- Look at a run of bytes. -/
def run (limit : Nat) : List UInt8 → Deframer → List Event × Deframer
  | [], deframer => ([], deframer)
  | byte :: rest, deframer =>
      let (event, deframer) := deframer.push limit byte
      let (events, deframer) := run limit rest deframer
      (event :: events, deframer)

end Deframer

end RadioSnapshot
