/-!
# Frames

A frame carries one payload over the link. On the wire it is two magic bytes, the
length of the payload as a big-endian 16-bit number, and the payload.
-/

namespace RadioSnapshot

/-- A payload received from the link. -/
structure Frame where
  payload : List UInt8
  deriving BEq, DecidableEq, Repr

namespace Frame

def firstMagic : UInt8 := 0x94

def secondMagic : UInt8 := 0xC3

/-- The magic bytes and the length. -/
def headerSize : Nat := 4

/-- The largest payload that a radio sends or accepts. -/
def maxPayload : Nat := 512

/-- The two bytes of a length, the more significant first. -/
def lengthBytes (length : Nat) : List UInt8 :=
  [UInt8.ofNat (length / 256), UInt8.ofNat length]

/-- The length that two bytes stand for. -/
def declaredLength (high low : UInt8) : Nat :=
  256 * high.toNat + low.toNat

/-- What is in front of a payload of this length. -/
def header (length : Nat) : List UInt8 :=
  firstMagic :: secondMagic :: lengthBytes length

/-- The bytes of a frame on the wire. -/
def wire (frame : Frame) : List UInt8 :=
  header frame.payload.length ++ frame.payload

def wireSize (frame : Frame) : Nat :=
  headerSize + frame.payload.length

/-- Sent once before the first request: too long a run of the second magic byte
to be part of anything, it makes the radio drop a frame it received in part. -/
def wakeSequence : List UInt8 :=
  List.replicate 32 secondMagic

end Frame

end RadioSnapshot
