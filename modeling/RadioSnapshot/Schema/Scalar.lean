import RadioSnapshot.Decimal.Binary32
import RadioSnapshot.Text.Json
import RadioSnapshot.Wire.Skip

/-!
# Scalar field types

A scalar type fixes the values a field may hold, how one is laid out on the
wire, and which value an absent field stands for.
-/

namespace RadioSnapshot.Schema

open Wire

/-- The types of fields that hold no message. -/
inductive ScalarType where
  | uint32
  | int32
  | bool
  | fixed32
  | float
  | string
  | bytes
  deriving BEq, DecidableEq, Repr

namespace ScalarType

/-- The values of a type. -/
abbrev Value : ScalarType → Type
  | .uint32 => UInt32
  | .int32 => Int32
  | .bool => Bool
  | .fixed32 => UInt32
  | .float => Binary32
  | .string => String
  | .bytes => List UInt8

/-- The value of a field that is absent. -/
def blank : (type : ScalarType) → type.Value
  | .uint32 => 0
  | .int32 => 0
  | .bool => false
  | .fixed32 => 0
  | .float => ⟨0⟩
  | .string => ""
  | .bytes => []

/-- Whether a field with this value is left out. Both zeros are, so a negative
zero is not preserved. -/
def isBlank : (type : ScalarType) → type.Value → Bool
  | .uint32, value => value == 0
  | .int32, value => value == 0
  | .bool, value => !value
  | .fixed32, value => value == 0
  | .float, value => value.isZero
  | .string, value => value.isEmpty
  | .bytes, value => value.isEmpty

/-- The value that a reader gets back for a singular field. -/
def canonical (type : ScalarType) (value : type.Value) : type.Value :=
  if type.isBlank value then type.blank else value

def wireType : ScalarType → WireType
  | .uint32 | .int32 | .bool => .varint
  | .fixed32 | .float => .thirtyTwoBit
  | .string | .bytes => .lengthDelimited

/-- Four bytes, least significant first. -/
def encodeWord (word : UInt32) : List UInt8 :=
  let value := word.toNat
  [UInt8.ofNat value, UInt8.ofNat (value / 0x100), UInt8.ofNat (value / 0x10000),
    UInt8.ofNat (value / 0x1000000)]

def decodeWord : List UInt8 → Except Fault (UInt32 × List UInt8)
  | first :: second :: third :: fourth :: rest =>
      .ok (UInt32.ofNat (first.toNat + 0x100 * second.toNat + 0x10000 * third.toNat +
        0x1000000 * fourth.toNat), rest)
  | _ => .error .underflow

/-- A length and that many bytes. -/
def encodeBytes (content : List UInt8) : List UInt8 :=
  Varint.encode content.length ++ content

def decodeBytes (input : List UInt8) : Except Fault (List UInt8 × List UInt8) := do
  let (length, rest) ← Varint.decode input
  takeExactly length rest

/-- The bytes of a text. -/
def utf8 (text : String) : List UInt8 :=
  text.toUTF8.data.toList

/-- The text with the given bytes, unless they are no UTF-8. -/
def ofUtf8? (content : List UInt8) : Option String :=
  String.fromUTF8? ⟨content.toArray⟩

/-- A negative number takes all ten digits of its 64-bit two's complement. -/
def signExtend (value : Int32) : Nat :=
  value.toInt64.toUInt64.toNat

/-- The bytes of a value, without a key. -/
def encode : (type : ScalarType) → type.Value → List UInt8
  | .uint32, value => Varint.encode value.toNat
  | .int32, value => Varint.encode (signExtend value)
  | .bool, value => Varint.encode value.toNat
  | .fixed32, value => encodeWord value
  | .float, value => encodeWord value.bits
  | .string, value => encodeBytes (utf8 value)
  | .bytes, value => encodeBytes value

/-- The number of those bytes. -/
def encodedLength : (type : ScalarType) → type.Value → Nat
  | .uint32, value => Varint.encodedLength value.toNat
  | .int32, value => Varint.encodedLength (signExtend value)
  | .bool, _ => 1
  | .fixed32, _ => 4
  | .float, _ => 4
  | .string, value => Varint.encodedLength value.utf8ByteSize + value.utf8ByteSize
  | .bytes, value => Varint.encodedLength value.length + value.length

/-- Read a value without a key. Numbers keep their low 32 bits; a truth value
is true unless all 64 bits are zero. -/
def decode : (type : ScalarType) → List UInt8 → Except Fault (type.Value × List UInt8)
  | .uint32, input => do
      let (value, rest) ← Varint.decode input
      .ok (UInt32.ofNat value, rest)
  | .int32, input => do
      let (value, rest) ← Varint.decode input
      .ok (Int32.ofNat value, rest)
  | .bool, input => do
      let (value, rest) ← Varint.decode input
      .ok (value != 0, rest)
  | .fixed32, input => decodeWord input
  | .float, input => do
      let (word, rest) ← decodeWord input
      .ok (⟨word⟩, rest)
  | .string, input => do
      let (content, rest) ← decodeBytes input
      match ofUtf8? content with
      | some text => .ok (text, rest)
      | none => .error .invalidText
  | .bytes, input => decodeBytes input

/-- A value as JSON. Bytes appear as hexadecimal text. -/
def toJson : (type : ScalarType) → type.Value → Json
  | .uint32, value => .nat value.toNat
  | .int32, value => .integer value.toInt
  | .bool, value => .bool value
  | .fixed32, value => .nat value.toNat
  | .float, value => .binary32 value
  | .string, value => .string value
  | .bytes, value => .string (Hex.encode value)

end ScalarType

end RadioSnapshot.Schema
