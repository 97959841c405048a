import RadioSnapshot.Proofs.Schema.Length
import RadioSnapshot.Proofs.Wire.Skip

/-!
# Encodings with undeclared fields

A later version of a message may have more fields. What such a message looks like is the
encoding of a record with well-formed fields of undeclared tags put in: in front of any of
its fields and behind the last of them, in the message itself and in the messages nested in
it, whose lengths are those that result.
-/

namespace RadioSnapshot.Schema

open Wire

/-- Well-formed fields, all with tags that are not declared. -/
def Undeclared (declared : List Nat) (depth : Nat) : List UInt8 → Prop :=
  FieldRun fun key body => key.tag ∉ declared ∧ WellFormed depth key body

/-- The pieces stand in these bytes one after the other, each with foreign bytes in front
of it, and then comes what comes behind them. -/
def Interspersed (foreign behind : List UInt8 → Prop) : List (List UInt8) → List UInt8 → Prop
  | [], bytes => behind bytes
  | piece :: pieces, bytes =>
      ∃ front rest, foreign front ∧ Interspersed foreign behind pieces rest ∧
        bytes = front ++ (piece ++ rest)

mutual

/-- The bytes are the encoding of the record with undeclared fields put in, with so many
levels of nesting left for the groups among them. -/
def MessageType.Extended : (type : MessageType) → (depth : Nat) → type.Record →
    List UInt8 → Prop
  | .mk _ fields, depth, record, bytes =>
      fields.Extended (Undeclared fields.tags depth) depth record bytes

def Fields.Extended (foreign : List UInt8 → Prop) (depth : Nat) :
    (fields : Fields) → fields.Record → List UInt8 → Prop
  | .done, _, bytes => foreign bytes
  | .plain _ tag _ type rest, (value, others), bytes =>
      Interspersed foreign (rest.Extended foreign depth others)
        (if type.isBlank value then [] else [type.encodeField tag value]) bytes
  | .optional tag _ type rest, (value, others), bytes =>
      Interspersed foreign (rest.Extended foreign depth others)
        (value.toList.map (type.encodeField tag)) bytes
  | .byteStrings tag _ rest, (values, others), bytes =>
      Interspersed foreign (rest.Extended foreign depth others)
        (values.map (ScalarType.bytes.encodeField tag)) bytes
  | .message tag _ type rest, (value, others), bytes =>
      ∃ pieces, (value.elim (pieces = []) fun value =>
          ∃ body, type.Extended (depth - 1) value body ∧ pieces = [encodeNested tag body]) ∧
        Interspersed foreign (rest.Extended foreign depth others) pieces bytes
  | .choice _ _ _ members rest, (value, others), bytes =>
      ∃ pieces, (value.elim (pieces = []) fun value =>
          ∃ piece, members.Extended depth value piece ∧ pieces = [piece]) ∧
        Interspersed foreign (rest.Extended foreign depth others) pieces bytes

def Members.Extended (depth : Nat) : (members : Members) → members.Choice →
    List UInt8 → Prop
  | .scalar tag _ type _, .inl value, piece => piece = type.encodeField tag value
  | .scalar _ _ _ rest, .inr choice, piece => rest.Extended depth choice piece
  | .message tag _ type _, .inl value, piece =>
      ∃ body, type.Extended (depth - 1) value body ∧ piece = encodeNested tag body
  | .message _ _ _ rest, .inr choice, piece => rest.Extended depth choice piece

end

section

variable {foreign behind : List UInt8 → Prop}

/-- Pieces may stand side by side. -/
theorem Interspersed.of_flatten (nothing : foreign []) {rest : List UInt8}
    (follows : behind rest) (pieces : List (List UInt8)) :
    Interspersed foreign behind pieces (pieces.flatten ++ rest) := by
  induction pieces with
  | nil => exact follows
  | cons piece pieces ih =>
      refine ⟨[], pieces.flatten ++ rest, nothing, ih, ?_⟩
      rw [List.flatten_cons, List.append_assoc, List.nil_append]

/-- What is put in makes the whole longer. -/
theorem Interspersed.length_le {pieces : List (List UInt8)} {bytes own others : List UInt8}
    (room : own.length ≤ pieces.flatten.length)
    (follows : ∀ rest, behind rest → others.length ≤ rest.length)
    (interspersed : Interspersed foreign behind pieces bytes) :
    (own ++ others).length ≤ bytes.length := by
  rw [List.length_append]
  suffices enough : pieces.flatten.length + others.length ≤ bytes.length by omega
  clear room
  induction pieces generalizing bytes with
  | nil =>
      rw [List.flatten_nil, List.length_nil, Nat.zero_add]
      exact follows bytes interspersed
  | cons piece pieces ih =>
      obtain ⟨front, rest, _, behindPiece, rfl⟩ := interspersed
      have fewer := ih behindPiece
      simp only [List.flatten_cons, List.length_append]
      omega

end

mutual

/-- Nothing has to be put in. -/
theorem MessageType.extended_encode : (type : MessageType) → (depth : Nat) →
    (record : type.Record) → type.Extended depth record (type.encode record)
  | .mk _ fields, depth, record => by
      rw [MessageType.Extended, MessageType.encode]
      exact fields.extended_encode .nil depth record

theorem Fields.extended_encode : (fields : Fields) → {foreign : List UInt8 → Prop} →
    foreign [] → (depth : Nat) → (record : fields.Record) →
    fields.Extended foreign depth record (fields.encode record)
  | .done, _, nothing, _, _ => nothing
  | .plain _ tag _ type rest, foreign, nothing, depth, (value, others) => by
      have follows := rest.extended_encode nothing depth others
      have together := Interspersed.of_flatten nothing follows
        (if type.isBlank value then [] else [type.encodeField tag value])
      rw [Fields.Extended, Fields.encode]
      by_cases left : type.isBlank value = true
      · simpa [left] using together
      · simpa [left] using together
  | .optional tag _ type rest, foreign, nothing, depth, (value, others) => by
      have follows := rest.extended_encode nothing depth others
      have together := Interspersed.of_flatten nothing follows
        (value.toList.map (type.encodeField tag))
      rw [Fields.Extended, Fields.encode]
      cases value with
      | none => exact together
      | some value => simpa using together
  | .byteStrings tag _ rest, foreign, nothing, depth, (values, others) => by
      have follows := rest.extended_encode nothing depth others
      rw [Fields.Extended, Fields.encode, List.flatMap_def]
      exact Interspersed.of_flatten nothing follows _
  | .message tag _ type rest, foreign, nothing, depth, (value, others) => by
      have follows := rest.extended_encode nothing depth others
      rw [Fields.Extended, Fields.encode]
      cases value with
      | none => exact ⟨[], rfl, follows⟩
      | some value =>
          have nested := type.extended_encode (depth - 1) value
          refine ⟨_, ⟨type.encode value, nested, rfl⟩, ?_⟩
          simpa using Interspersed.of_flatten nothing follows [encodeNested tag (type.encode value)]
  | .choice _ _ _ members rest, foreign, nothing, depth, (value, others) => by
      have follows := rest.extended_encode nothing depth others
      rw [Fields.Extended, Fields.encode]
      cases value with
      | none => exact ⟨[], rfl, follows⟩
      | some value =>
          have member := members.extended_encode depth value
          refine ⟨_, ⟨members.encode value, member, rfl⟩, ?_⟩
          simpa using Interspersed.of_flatten nothing follows [members.encode value]

theorem Members.extended_encode : (members : Members) → (depth : Nat) →
    (choice : members.Choice) → members.Extended depth choice (members.encode choice)
  | .scalar _ _ _ _, _, .inl _ => rfl
  | .scalar _ _ _ rest, depth, .inr choice => rest.extended_encode depth choice
  | .message _ _ type _, depth, .inl value =>
      ⟨type.encode value, type.extended_encode (depth - 1) value, rfl⟩
  | .message _ _ _ rest, depth, .inr choice => rest.extended_encode depth choice

end

/-- A longer body makes a longer field, its length included. -/
theorem length_encodeNested_mono (tag : Nat) {body longer : List UInt8}
    (grows : body.length ≤ longer.length) :
    (encodeNested tag body).length ≤ (encodeNested tag longer).length := by
  have more := Varint.encodedLength_mono grows
  rw [length_encodeNested, length_encodeNested, nestedLength, nestedLength]
  omega

mutual

/-- Fields that are put in make an encoding longer. -/
theorem MessageType.Extended.length_le : {type : MessageType} → {depth : Nat} →
    {record : type.Record} → {bytes : List UInt8} → type.Extended depth record bytes →
    (type.encode record).length ≤ bytes.length
  | .mk _ fields, depth, record, bytes, extended => by
      rw [MessageType.encode]
      exact Fields.Extended.length_le extended

theorem Fields.Extended.length_le : {fields : Fields} → {foreign : List UInt8 → Prop} →
    {depth : Nat} → {record : fields.Record} → {bytes : List UInt8} →
    fields.Extended foreign depth record bytes →
    (fields.encode record).length ≤ bytes.length
  | .done, _, _, _, _, _ => Nat.zero_le _
  | .plain _ tag _ type rest, foreign, depth, (value, others), bytes, extended => by
      refine Interspersed.length_le ?_ (fun _ => Fields.Extended.length_le) extended
      split
      · exact Nat.zero_le _
      · exact Nat.le_of_eq (congrArg List.length List.flatten_singleton.symm)
  | .optional tag _ type rest, foreign, depth, (value, others), bytes, extended => by
      refine Interspersed.length_le ?_ (fun _ => Fields.Extended.length_le) extended
      cases value with
      | none => exact Nat.zero_le _
      | some value => simp
  | .byteStrings tag _ rest, foreign, depth, (values, others), bytes, extended => by
      refine Interspersed.length_le ?_ (fun _ => Fields.Extended.length_le) extended
      exact Nat.le_of_eq (congrArg List.length List.flatMap_def)
  | .message tag _ type rest, foreign, depth, (value, others), bytes, extended => by
      obtain ⟨pieces, own, interspersed⟩ := extended
      refine Interspersed.length_le ?_ (fun _ => Fields.Extended.length_le) interspersed
      cases value with
      | none => exact Nat.zero_le _
      | some value =>
          obtain ⟨body, nested, rfl⟩ := own
          rw [List.flatten_singleton]
          exact length_encodeNested_mono tag nested.length_le
  | .choice _ _ _ members rest, foreign, depth, (value, others), bytes, extended => by
      obtain ⟨pieces, own, interspersed⟩ := extended
      refine Interspersed.length_le ?_ (fun _ => Fields.Extended.length_le) interspersed
      cases value with
      | none => exact Nat.zero_le _
      | some value =>
          obtain ⟨piece, member, rfl⟩ := own
          rw [List.flatten_singleton]
          exact Members.Extended.length_le member

theorem Members.Extended.length_le : {members : Members} → {depth : Nat} →
    {choice : members.Choice} → {piece : List UInt8} → members.Extended depth choice piece →
    (members.encode choice).length ≤ piece.length
  | .scalar _ _ _ _, _, .inl _, _, extended => Nat.le_of_eq (congrArg List.length extended.symm)
  | .scalar _ _ _ rest, _, .inr _, _, extended =>
      @Members.Extended.length_le rest _ _ _ extended
  | .message tag _ type _, depth, .inl value, _, extended => by
      obtain ⟨body, nested, rfl⟩ := extended
      exact length_encodeNested_mono tag nested.length_le
  | .message _ _ _ rest, _, .inr _, _, extended =>
      @Members.Extended.length_le rest _ _ _ extended

end

end RadioSnapshot.Schema
