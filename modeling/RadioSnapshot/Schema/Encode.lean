import RadioSnapshot.Schema.Message

/-!
# Encoding of records

Fields are written in the order of their description. A plain field with the
value of an absent one is left out; a value that is present in an optional
field, in a list or in a choice is written whatever it is. Lengths are written in
their shortest form, so a record has exactly one encoding.
-/

namespace RadioSnapshot.Schema

open Wire

/-- A scalar with its key. -/
def ScalarType.encodeField (type : ScalarType) (tag : Nat) (value : type.Value) :
    List UInt8 :=
  Key.encode ⟨tag, type.wireType⟩ ++ type.encode value

/-- A nested message with its key and length. -/
def encodeNested (tag : Nat) (body : List UInt8) : List UInt8 :=
  Key.encode ⟨tag, .lengthDelimited⟩ ++ ScalarType.encodeBytes body

mutual

/-- The bytes of a record. -/
def MessageType.encode : (type : MessageType) → type.Record → List UInt8
  | .mk _ fields, record => fields.encode record

def Fields.encode : (fields : Fields) → fields.Record → List UInt8
  | .done, _ => []
  | .plain _ tag _ type rest, (value, others) =>
      (if type.isBlank value then [] else type.encodeField tag value) ++ rest.encode others
  | .optional tag _ type rest, (value, others) =>
      value.elim [] (type.encodeField tag) ++ rest.encode others
  | .byteStrings tag _ rest, (values, others) =>
      values.flatMap (ScalarType.bytes.encodeField tag) ++ rest.encode others
  | .message tag _ type rest, (value, others) =>
      (value.elim [] fun value => encodeNested tag (type.encode value)) ++ rest.encode others
  | .choice _ _ _ members rest, (value, others) =>
      (value.elim [] fun value => members.encode value) ++ rest.encode others

def Members.encode : (members : Members) → members.Choice → List UInt8
  | .scalar tag _ type _, .inl value => type.encodeField tag value
  | .scalar _ _ _ rest, .inr choice => rest.encode choice
  | .message tag _ type _, .inl value => encodeNested tag (type.encode value)
  | .message _ _ _ rest, .inr choice => rest.encode choice

end

/-- The length of a scalar with its key. -/
def ScalarType.fieldLength (type : ScalarType) (tag : Nat) (value : type.Value) : Nat :=
  Key.encodedLength ⟨tag, type.wireType⟩ + type.encodedLength value

/-- The length of a nested message with its key and length. -/
def nestedLength (tag body : Nat) : Nat :=
  Key.encodedLength ⟨tag, .lengthDelimited⟩ + Varint.encodedLength body + body

mutual

/-- The length of a record's encoding, found without writing it. -/
def MessageType.encodedLength : (type : MessageType) → type.Record → Nat
  | .mk _ fields, record => fields.encodedLength record

def Fields.encodedLength : (fields : Fields) → fields.Record → Nat
  | .done, _ => 0
  | .plain _ tag _ type rest, (value, others) =>
      (if type.isBlank value then 0 else type.fieldLength tag value) +
        rest.encodedLength others
  | .optional tag _ type rest, (value, others) =>
      value.elim 0 (type.fieldLength tag) + rest.encodedLength others
  | .byteStrings tag _ rest, (values, others) =>
      values.foldr (fun value total => ScalarType.bytes.fieldLength tag value + total) 0 +
        rest.encodedLength others
  | .message tag _ type rest, (value, others) =>
      (value.elim 0 fun value => nestedLength tag (type.encodedLength value)) +
        rest.encodedLength others
  | .choice _ _ _ members rest, (value, others) =>
      (value.elim 0 fun value => members.encodedLength value) + rest.encodedLength others

def Members.encodedLength : (members : Members) → members.Choice → Nat
  | .scalar tag _ type _, .inl value => type.fieldLength tag value
  | .scalar _ _ _ rest, .inr choice => rest.encodedLength choice
  | .message tag _ type _, .inl value => nestedLength tag (type.encodedLength value)
  | .message _ _ _ rest, .inr choice => rest.encodedLength choice

end

end RadioSnapshot.Schema
