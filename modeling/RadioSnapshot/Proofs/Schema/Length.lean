import RadioSnapshot.Schema.Encode
import RadioSnapshot.Proofs.Schema.Scalar

/-!
# The length of an encoding

The length of a record's encoding, found without writing it, is the length of what is
written. Lengths stand in front of nested messages, so this is what makes the two agree
on every level.
-/

namespace RadioSnapshot.Schema

open Wire

theorem ScalarType.length_encodeField (type : ScalarType) (tag : Nat) (value : type.Value) :
    (type.encodeField tag value).length = type.fieldLength tag value := by
  rw [encodeField, fieldLength, List.length_append, Key.length_encode, length_encode]

theorem length_encodeNested (tag : Nat) (body : List UInt8) :
    (encodeNested tag body).length = nestedLength tag body.length := by
  rw [encodeNested, nestedLength, ScalarType.encodeBytes, List.length_append,
    List.length_append, Key.length_encode, Varint.length_encode, Nat.add_assoc]

mutual

theorem MessageType.length_encode : (type : MessageType) → (record : type.Record) →
    (type.encode record).length = type.encodedLength record
  | .mk _ fields, record => by
      simp only [MessageType.encode, MessageType.encodedLength]
      exact fields.length_encode record

theorem Fields.length_encode : (fields : Fields) → (record : fields.Record) →
    (fields.encode record).length = fields.encodedLength record
  | .done, _ => rfl
  | .plain _ tag _ type rest, (value, others) => by
      rw [Fields.encode, Fields.encodedLength, List.length_append, rest.length_encode others]
      split
      · rfl
      · rw [type.length_encodeField]
  | .optional tag _ type rest, (value, others) => by
      rw [Fields.encode, Fields.encodedLength, List.length_append, rest.length_encode others]
      cases value with
      | none => rfl
      | some value => simp only [Option.elim, type.length_encodeField]
  | .byteStrings tag _ rest, (values, others) => by
      rw [Fields.encode, Fields.encodedLength, List.length_append, rest.length_encode others]
      congr 1
      induction values with
      | nil => rfl
      | cons value values ih =>
          rw [List.flatMap_cons, List.length_append, ScalarType.length_encodeField, ih,
            List.foldr_cons]
  | .message tag _ type rest, (value, others) => by
      rw [Fields.encode, Fields.encodedLength, List.length_append, rest.length_encode others]
      cases value with
      | none => rfl
      | some value => simp only [Option.elim, length_encodeNested, type.length_encode value]
  | .choice _ _ _ members rest, (value, others) => by
      rw [Fields.encode, Fields.encodedLength, List.length_append, rest.length_encode others]
      cases value with
      | none => rfl
      | some value => simp only [Option.elim, members.length_encode value]

theorem Members.length_encode : (members : Members) → (choice : members.Choice) →
    (members.encode choice).length = members.encodedLength choice
  | .scalar tag _ type _, .inl value => type.length_encodeField tag value
  | .scalar _ _ _ rest, .inr choice => rest.length_encode choice
  | .message tag _ type _, .inl value => by
      rw [Members.encode, Members.encodedLength, length_encodeNested, type.length_encode value]
  | .message _ _ _ rest, .inr choice => rest.length_encode choice

end

end RadioSnapshot.Schema
