import RadioSnapshot.Proofs.Schema.RoundTrip
import RadioSnapshot.Proofs.Schema.Truncation
import RadioSnapshot.Proofs.Schema.Variants

/-!
# Encodings one behind the other

Bytes that stand behind the encoding of a record are read on top of that record, so a record
that is written behind another one is merged into it. In a choice the member of the last
record stays: merged with the one before if that is the same member and holds a message, and
in its place otherwise.
-/

namespace RadioSnapshot.Schema

open Wire

/-- A record written behind some input is merged into what that input is read as. -/
theorem MessageType.decode_append_encode {type : MessageType}
    (readable : type.isReadable maxDepth = true) {input : List UInt8} {record : type.Record}
    (accepted : type.decode input = .ok record) {later : type.Record}
    (small : (type.encode later).length < Varint.bound) :
    type.decode (input ++ type.encode later) = .ok (type.merged record later) := by
  obtain ⟨name, fields⟩ := type
  have selects (key : Key) (record : fields.Record) :
      Selects fun input => fields.merge? name maxDepth key record input :=
    fields.selects_merge? name maxDepth key record
  have behind := @MessageType.merge_encode (.mk name fields) maxDepth readable record later []
    small
  rw [List.append_nil, List.length_nil] at behind
  have first := MessageType.fieldsRead_of_decode accepted
    ((MessageType.mk name fields).encode later)
  obtain ⟨second, _⟩ := fieldsRead_of_readFields
    (length_lt_of_readField fun key => selects key _) (Nat.le_refl _) behind
  have whole : (MessageType.mk name fields).merge maxDepth 0 (MessageType.mk name fields).blank
      (input ++ (MessageType.mk name fields).encode later) =
        .ok ((MessageType.mk name fields).merged record later, []) :=
    readFields_of_fieldsRead (first.trans second) (Nat.le_refl _)
  rw [decode, whole]

/-! ## Members of a choice -/

/-- What a member of a choice holds. -/
inductive Held where
  | scalar (type : ScalarType)
  | message (type : MessageType)

namespace Held

def Value : Held → Type
  | .scalar type => type.Value
  | .message type => type.Record

/-- A value with a later one merged into it. Scalars are replaced. -/
def merged : (held : Held) → (base later : held.Value) → held.Value
  | .scalar _, _, later => later
  | .message type, base, later => type.merged base later

end Held

namespace Members

/-- A member of a choice with what it holds. -/
inductive Slot : Members → Held → Type
  | scalar {tag : Nat} {name : String} {type : ScalarType} {rest : Members} :
      Slot (.scalar tag name type rest) (.scalar type)
  | message {tag : Nat} {name : String} {type : MessageType} {rest : Members} :
      Slot (.message tag name type rest) (.message type)
  | behindScalar {tag : Nat} {name : String} {type : ScalarType} {rest : Members} {held : Held}
      (slot : Slot rest held) : Slot (.scalar tag name type rest) held
  | behindMessage {tag : Nat} {name : String} {type : MessageType} {rest : Members}
      {held : Held} (slot : Slot rest held) : Slot (.message tag name type rest) held

/-- The choice of this member with this value. -/
def Slot.choose {members : Members} {held : Held} :
    Slot members held → held.Value → members.Choice
  | .scalar, value => .inl value
  | .message, value => .inl value
  | .behindScalar slot, value => .inr (slot.choose value)
  | .behindMessage slot, value => .inr (slot.choose value)

variable {members : Members} {held : Held}

/-- Choices of members in the same place are choices of the same member. -/
theorem exists_slot_of_place_eq : {members : Members} → {first second : members.Choice} →
    members.place first = members.place second →
    ∃ (held : Held) (slot : members.Slot held) (value other : held.Value),
      first = slot.choose value ∧ second = slot.choose other
  | .scalar _ _ _ _, .inl value, .inl other, _ => ⟨_, .scalar, value, other, rfl, rfl⟩
  | .message _ _ _ _, .inl value, .inl other, _ => ⟨_, .message, value, other, rfl, rfl⟩
  | .scalar _ _ _ rest, .inr first, .inr second, same => by
      have sameBehind : rest.place first = rest.place second := Nat.succ.inj same
      obtain ⟨held, slot, value, other, rfl, rfl⟩ := exists_slot_of_place_eq sameBehind
      exact ⟨held, .behindScalar slot, value, other, rfl, rfl⟩
  | .message _ _ _ rest, .inr first, .inr second, same => by
      have sameBehind : rest.place first = rest.place second := Nat.succ.inj same
      obtain ⟨held, slot, value, other, rfl, rfl⟩ := exists_slot_of_place_eq sameBehind
      exact ⟨held, .behindMessage slot, value, other, rfl, rfl⟩

/-- The same member in both records is merged. -/
theorem merged_choose (slot : members.Slot held) (value other : held.Value) :
    members.merged (some (slot.choose value)) (slot.choose other) =
      slot.choose (held.merged value other) := by
  induction slot with
  | scalar | message => rfl
  | behindScalar slot ih | behindMessage slot ih => exact congrArg Sum.inr (ih value other)

/-- A member with no earlier one, or with one of another kind, is read afresh. -/
theorem merged_of_place_ne : {members : Members} → {base : Option members.Choice} →
    {later : members.Choice} → (∀ earlier ∈ base, members.place earlier ≠ members.place later) →
    members.merged base later = members.withoutNegativeZeros later
  | .scalar _ _ _ _, _, .inl _, _ => rfl
  | .message _ _ type _, base, .inl later, other => by
      have fresh : base.bind Sum.getLeft? = none := by
        rcases base with _ | earlier | earlier
        · rfl
        · exact absurd rfl (other (.inl earlier) rfl)
        · rfl
      rw [merged, fresh]
      exact congrArg Sum.inl (type.merged_blank later)
  | .scalar _ _ _ rest, base, .inr later, other
  | .message _ _ _ rest, base, .inr later, other => by
      have otherBehind : ∀ earlier ∈ base.bind Sum.getRight?,
          rest.place earlier ≠ rest.place later := by
        intro found member same
        rcases base with _ | earlier | earlier
        · cases member
        · cases member
        · cases member
          exact other (.inr found) rfl (congrArg Nat.succ same)
      rw [merged, merged_of_place_ne otherBehind]
      rfl

end Members

end RadioSnapshot.Schema
