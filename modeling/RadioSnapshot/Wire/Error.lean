/-!
# Faults of the wire format

A message is a sequence of fields, each a key followed by a value. This module
lists what can be wrong with one, and where: a fault is found inside a field of
a message that may itself be a field of another.
-/

namespace RadioSnapshot.Wire

/-- How the bytes after a key are laid out. -/
inductive WireType where
  | varint
  | sixtyFourBit
  | lengthDelimited
  | startGroup
  | endGroup
  | thirtyTwoBit
  deriving BEq, DecidableEq, Repr

namespace WireType

/-- The three low bits of a key. -/
def code : WireType → Nat
  | .varint => 0
  | .sixtyFourBit => 1
  | .lengthDelimited => 2
  | .startGroup => 3
  | .endGroup => 4
  | .thirtyTwoBit => 5

def ofCode? : Nat → Option WireType
  | 0 => some .varint
  | 1 => some .sixtyFourBit
  | 2 => some .lengthDelimited
  | 3 => some .startGroup
  | 4 => some .endGroup
  | 5 => some .thirtyTwoBit
  | _ => none

@[simp] theorem ofCode?_code (wireType : WireType) : ofCode? wireType.code = some wireType := by
  cases wireType <;> rfl

/-- The name used in error texts. -/
def name : WireType → String
  | .varint => "Varint"
  | .sixtyFourBit => "SixtyFourBit"
  | .lengthDelimited => "LengthDelimited"
  | .startGroup => "StartGroup"
  | .endGroup => "EndGroup"
  | .thirtyTwoBit => "ThirtyTwoBit"

end WireType

/-- What is wrong with the bytes. -/
inductive Fault where
  | invalidVarint
  | invalidKey (value : Nat)
  | invalidWireType (code : Nat)
  | zeroTag
  | wireTypeMismatch (actual expected : WireType)
  | underflow
  | invalidText
  | lengthExceeded
  | unexpectedGroupEnd
  | recursionLimit
  deriving BEq, DecidableEq, Repr

namespace Fault

def message : Fault → String
  | .invalidVarint => "invalid varint"
  | .invalidKey value => s!"invalid key value: {value}"
  | .invalidWireType code => s!"invalid wire type value: {code}"
  | .zeroTag => "invalid tag value: 0"
  | .wireTypeMismatch actual expected =>
      "invalid wire type: " ++ actual.name ++ " (expected " ++ expected.name ++ ")"
  | .underflow => "buffer underflow"
  | .invalidText => "invalid string value: data is not UTF-8 encoded"
  | .lengthExceeded => "delimited length exceeded"
  | .unexpectedGroupEnd => "unexpected end group tag"
  | .recursionLimit => "recursion limit reached"

end Fault

/-- A field of a message, by their names. -/
structure Place where
  message : String
  field : String
  deriving BEq, DecidableEq, Repr

/-- A fault together with the fields it was found in, innermost first. -/
structure DecodeError where
  fault : Fault
  path : List Place
  deriving BEq, DecidableEq, Repr

namespace DecodeError

/-- A fault not yet placed in any field. -/
def ofFault (fault : Fault) : DecodeError :=
  ⟨fault, []⟩

/-- The same fault, seen from the message that holds the field. -/
def within (place : Place) (error : DecodeError) : DecodeError :=
  { error with path := error.path ++ [place] }

def message (error : DecodeError) : String :=
  "failed to decode Protobuf message: " ++
    String.join (error.path.map fun place => place.message ++ "." ++ place.field ++ ": ") ++
    error.fault.message

end DecodeError

end RadioSnapshot.Wire
