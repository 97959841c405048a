import RadioSnapshot.Wire.Varint

/-!
# Field keys

A key is a variable-length number below `2 ^ 32` holding the field's tag and the
layout of the value that follows.
-/

namespace RadioSnapshot.Wire

/-- What stands in front of a value. -/
structure Key where
  tag : Nat
  wireType : WireType
  deriving BEq, DecidableEq, Repr

namespace Key

def number (key : Key) : Nat :=
  8 * key.tag + key.wireType.code

def encode (key : Key) : List UInt8 :=
  Varint.encode key.number

def encodedLength (key : Key) : Nat :=
  Varint.encodedLength key.number

/-- Read a key. The size of the number is checked first, then the layout, then
the tag. -/
def decode (input : List UInt8) : Except Fault (Key × List UInt8) := do
  let (number, rest) ← Varint.decode input
  if 0x100000000 ≤ number then .error (.invalidKey number)
  else
    match WireType.ofCode? (number % 8) with
    | none => .error (.invalidWireType (number % 8))
    | some wireType =>
        if number / 8 = 0 then .error .zeroTag
        else .ok (⟨number / 8, wireType⟩, rest)

/-- Refuse a value laid out otherwise than its field is declared. -/
def expect (expected : WireType) (key : Key) : Except Fault Unit :=
  if key.wireType = expected then .ok ()
  else .error (.wireTypeMismatch key.wireType expected)

end Key

end RadioSnapshot.Wire
