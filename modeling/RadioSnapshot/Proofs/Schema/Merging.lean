import RadioSnapshot.Schema.Encode
import RadioSnapshot.Proofs.Schema.Scalar

/-!
# Merging records

A record that is read on top of another one is merged into it, field by field: a plain
value counts unless it is blank, a value that may be absent counts when it is there,
lists are joined, nested messages and members of a choice merge when both are there.
Merged into a blank record, a record stays as it is but for its negative zeros, which
are written as if they were positive.
-/

namespace RadioSnapshot.Schema

mutual

/-- A record with a later one merged into it. -/
def MessageType.merged : (type : MessageType) → (base later : type.Record) → type.Record
  | .mk _ fields, base, later => fields.merged base later

def Fields.merged : (fields : Fields) → (base later : fields.Record) → fields.Record
  | .done, _, _ => ()
  | .plain _ _ _ type rest, (value, others), (laterValue, laterOthers) =>
      (if type.isBlank laterValue then value else laterValue, rest.merged others laterOthers)
  | .optional _ _ _ rest, (value, others), (laterValue, laterOthers) =>
      (laterValue.or value, rest.merged others laterOthers)
  | .byteStrings _ _ rest, (values, others), (laterValues, laterOthers) =>
      (values ++ laterValues, rest.merged others laterOthers)
  | .message _ _ type rest, (value, others), (laterValue, laterOthers) =>
      (laterValue.elim value fun later => some (type.merged (value.getD type.blank) later),
        rest.merged others laterOthers)
  | .choice _ _ _ members rest, (value, others), (laterValue, laterOthers) =>
      (laterValue.elim value fun later => some (members.merged value later),
        rest.merged others laterOthers)

/-- The later member, merged into an earlier one if that is the same message. -/
def Members.merged : (members : Members) → (base : Option members.Choice) →
    (later : members.Choice) → members.Choice
  | .scalar _ _ _ _, _, .inl later => .inl later
  | .scalar _ _ _ rest, base, .inr later => .inr (rest.merged (base.bind Sum.getRight?) later)
  | .message _ _ type _, base, .inl later =>
      .inl (type.merged ((base.bind Sum.getLeft?).getD type.blank) later)
  | .message _ _ _ rest, base, .inr later => .inr (rest.merged (base.bind Sum.getRight?) later)

end

mutual

/-- A record with the positive zero in place of the negative one in every plain field of
it and of the messages nested in it. -/
def MessageType.withoutNegativeZeros : (type : MessageType) → type.Record → type.Record
  | .mk _ fields, record => fields.withoutNegativeZeros record

def Fields.withoutNegativeZeros : (fields : Fields) → fields.Record → fields.Record
  | .done, _ => ()
  | .plain _ _ _ type rest, (value, others) =>
      (type.withoutNegativeZero value, rest.withoutNegativeZeros others)
  | .optional _ _ _ rest, (value, others) => (value, rest.withoutNegativeZeros others)
  | .byteStrings _ _ rest, (values, others) => (values, rest.withoutNegativeZeros others)
  | .message _ _ type rest, (value, others) =>
      (value.map fun value => type.withoutNegativeZeros value, rest.withoutNegativeZeros others)
  | .choice _ _ _ members rest, (value, others) =>
      (value.map fun value => members.withoutNegativeZeros value,
        rest.withoutNegativeZeros others)

def Members.withoutNegativeZeros : (members : Members) → members.Choice → members.Choice
  | .scalar _ _ _ _, .inl value => .inl value
  | .scalar _ _ _ rest, .inr choice => .inr (rest.withoutNegativeZeros choice)
  | .message _ _ type _, .inl value => .inl (type.withoutNegativeZeros value)
  | .message _ _ _ rest, .inr choice => .inr (rest.withoutNegativeZeros choice)

end

mutual

/-- Merged into a blank record, only negative zeros change. -/
theorem MessageType.merged_blank : (type : MessageType) → (record : type.Record) →
    type.merged type.blank record = type.withoutNegativeZeros record
  | .mk _ fields, record => by
      simp only [MessageType.merged, MessageType.blank, MessageType.withoutNegativeZeros]
      exact fields.merged_blank record

theorem Fields.merged_blank : (fields : Fields) → (record : fields.Record) →
    fields.merged fields.blank record = fields.withoutNegativeZeros record
  | .done, _ => rfl
  | .plain _ _ _ type rest, (value, others) => by
      simp only [Fields.merged, Fields.blank, Fields.withoutNegativeZeros,
        rest.merged_blank others, ← type.canonical_eq, ScalarType.canonical]
      rfl
  | .optional _ _ _ rest, (value, others) => by
      simp only [Fields.merged, Fields.blank, Fields.withoutNegativeZeros,
        rest.merged_blank others, Option.or_none]
      rfl
  | .byteStrings _ _ rest, (values, others) => by
      simp only [Fields.merged, Fields.blank, Fields.withoutNegativeZeros,
        rest.merged_blank others, List.nil_append]
      rfl
  | .message _ _ type rest, (value, others) => by
      simp only [Fields.merged, Fields.blank, Fields.withoutNegativeZeros,
        rest.merged_blank others]
      cases value with
      | none => rfl
      | some value =>
          simp only [Option.elim, Option.getD, Option.map, type.merged_blank value]
          rfl
  | .choice _ _ _ members rest, (value, others) => by
      simp only [Fields.merged, Fields.blank, Fields.withoutNegativeZeros,
        rest.merged_blank others]
      cases value with
      | none => rfl
      | some value =>
          simp only [Option.elim, Option.map, members.merged_none value]
          rfl

theorem Members.merged_none : (members : Members) → (choice : members.Choice) →
    members.merged none choice = members.withoutNegativeZeros choice
  | .scalar _ _ _ _, .inl _ => rfl
  | .scalar _ _ _ rest, .inr choice => congrArg Sum.inr (rest.merged_none choice)
  | .message _ _ type _, .inl value => congrArg Sum.inl (type.merged_blank value)
  | .message _ _ _ rest, .inr choice => congrArg Sum.inr (rest.merged_none choice)

end

mutual

/-- Negative zeros are written like positive ones. -/
theorem MessageType.encode_withoutNegativeZeros : (type : MessageType) →
    (record : type.Record) →
    type.encode (type.withoutNegativeZeros record) = type.encode record
  | .mk _ fields, record => by
      simp only [MessageType.encode, MessageType.withoutNegativeZeros]
      exact fields.encode_withoutNegativeZeros record

theorem Fields.encode_withoutNegativeZeros : (fields : Fields) → (record : fields.Record) →
    fields.encode (fields.withoutNegativeZeros record) = fields.encode record
  | .done, _ => rfl
  | .plain _ _ _ type rest, (value, others) => by
      simp only [Fields.encode, Fields.withoutNegativeZeros,
        rest.encode_withoutNegativeZeros others, type.isBlank_withoutNegativeZero value]
      split
      next => rfl
      next kept => rw [ScalarType.withoutNegativeZero_of_not_isBlank kept]
  | .optional _ _ _ rest, (value, others) => by
      simp only [Fields.encode, Fields.withoutNegativeZeros,
        rest.encode_withoutNegativeZeros others]
  | .byteStrings _ _ rest, (values, others) => by
      simp only [Fields.encode, Fields.withoutNegativeZeros,
        rest.encode_withoutNegativeZeros others]
  | .message _ _ type rest, (value, others) => by
      simp only [Fields.encode, Fields.withoutNegativeZeros,
        rest.encode_withoutNegativeZeros others]
      cases value with
      | none => rfl
      | some value =>
          simp only [Option.elim, Option.map, type.encode_withoutNegativeZeros value]
  | .choice _ _ _ members rest, (value, others) => by
      simp only [Fields.encode, Fields.withoutNegativeZeros,
        rest.encode_withoutNegativeZeros others]
      cases value with
      | none => rfl
      | some value =>
          simp only [Option.elim, Option.map, members.encode_withoutNegativeZeros value]

theorem Members.encode_withoutNegativeZeros : (members : Members) →
    (choice : members.Choice) →
    members.encode (members.withoutNegativeZeros choice) = members.encode choice
  | .scalar _ _ _ _, .inl _ => rfl
  | .scalar _ _ _ rest, .inr choice => rest.encode_withoutNegativeZeros choice
  | .message tag _ type _, .inl value =>
      congrArg (encodeNested tag) (type.encode_withoutNegativeZeros value)
  | .message _ _ _ rest, .inr choice => rest.encode_withoutNegativeZeros choice

end

end RadioSnapshot.Schema
