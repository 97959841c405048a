import RadioSnapshot.Schema.Display

/-!
# Concealing fields

A record is concealed by blanking the plain fields at some places, wherever in the record
they are. If none of these places is displayed, a concealed record looks like the record
that it comes from.
-/

namespace RadioSnapshot.Schema

open Wire

mutual

/-- The record with its fields at these places blanked. -/
def MessageType.concealed (hidden : List Place) : (type : MessageType) → type.Record → type.Record
  | .mk name fields, record => fields.concealed hidden name record

def Fields.concealed (hidden : List Place) (owner : String) :
    (fields : Fields) → fields.Record → fields.Record
  | .done, _ => ()
  | .plain _ _ name type rest, (value, others) =>
      (if hidden.contains ⟨owner, name⟩ then type.blank else value,
        rest.concealed hidden owner others)
  | .optional _ _ _ rest, (value, others) => (value, rest.concealed hidden owner others)
  | .byteStrings _ _ rest, (values, others) => (values, rest.concealed hidden owner others)
  | .message _ _ type rest, (value, others) =>
      (value.map fun value => type.concealed hidden value, rest.concealed hidden owner others)
  | .choice _ _ _ members rest, (value, others) =>
      (value.map fun value => members.concealed hidden value,
        rest.concealed hidden owner others)

def Members.concealed (hidden : List Place) : (members : Members) → members.Choice → members.Choice
  | .scalar _ _ _ _, .inl value => .inl value
  | .scalar _ _ _ rest, .inr choice => .inr (rest.concealed hidden choice)
  | .message _ _ type _, .inl value => .inl (type.concealed hidden value)
  | .message _ _ _ rest, .inr choice => .inr (rest.concealed hidden choice)

end

mutual

/-- The places of the plain fields with this visibility, of the message itself and of those
inside it. -/
def MessageType.places (visibility : Visibility) : MessageType → List Place
  | .mk name fields => fields.places visibility name

def Fields.places (visibility : Visibility) (owner : String) : Fields → List Place
  | .done => []
  | .plain own _ name _ rest =>
      if own = visibility then ⟨owner, name⟩ :: rest.places visibility owner
      else rest.places visibility owner
  | .optional _ _ _ rest | .byteStrings _ _ rest => rest.places visibility owner
  | .message _ _ type rest => type.places visibility ++ rest.places visibility owner
  | .choice _ _ _ members rest => members.places visibility ++ rest.places visibility owner

def Members.places (visibility : Visibility) : Members → List Place
  | .done => []
  | .scalar _ _ _ rest => rest.places visibility
  | .message _ _ type rest => type.places visibility ++ rest.places visibility

end

theorem Members.nameOf_concealed (hidden : List Place) :
    (members : Members) → (choice : members.Choice) →
      members.nameOf (members.concealed hidden choice) = members.nameOf choice
  | .scalar _ _ _ _, .inl _ => rfl
  | .scalar _ _ _ rest, .inr choice => rest.nameOf_concealed hidden choice
  | .message _ _ _ _, .inl _ => rfl
  | .message _ _ _ rest, .inr choice => rest.nameOf_concealed hidden choice

variable {hidden : List Place}

mutual

/-- Concealing what is not displayed cannot be seen. -/
theorem MessageType.toJson_concealed : (type : MessageType) →
    (∀ place ∈ type.places .shown, hidden.contains place = false) → (record : type.Record) →
      type.toJson (type.concealed hidden record) = type.toJson record
  | .mk name fields, apart, record => by
      simp only [MessageType.concealed, MessageType.toJson,
        fields.toJson_concealed name apart record]

theorem Fields.toJson_concealed (owner : String) : (fields : Fields) →
    (∀ place ∈ fields.places .shown owner, hidden.contains place = false) →
      (record : fields.Record) →
      fields.toJson (fields.concealed hidden owner record) = fields.toJson record
  | .done, _, _ => rfl
  | .plain .shown _ name type rest, apart, (value, others) => by
      simp only [Fields.places, if_true, List.forall_mem_cons] at apart
      obtain ⟨here, behind⟩ := apart
      rw [Fields.concealed, here, Fields.toJson, Fields.toJson,
        rest.toJson_concealed owner behind others]
      rfl
  | .plain .secret _ name type rest, apart, (value, others) => by
      rw [Fields.concealed, Fields.toJson, Fields.toJson]
      exact rest.toJson_concealed owner apart others
  | .optional _ name type rest, apart, (value, others) => by
      rw [Fields.concealed, Fields.toJson, Fields.toJson,
        rest.toJson_concealed owner apart others]
  | .byteStrings _ name rest, apart, (values, others) => by
      rw [Fields.concealed, Fields.toJson, Fields.toJson,
        rest.toJson_concealed owner apart others]
  | .message _ name type rest, apart, (value, others) => by
      simp only [Fields.places, List.forall_mem_append] at apart
      obtain ⟨inside, behind⟩ := apart
      rw [Fields.concealed, Fields.toJson, Fields.toJson,
        rest.toJson_concealed owner behind others]
      cases value with
      | none => rfl
      | some value => simp only [Option.map_some, Json.ofOption, type.toJson_concealed inside value]
  | .choice _ name labelling members rest, apart, (value, others) => by
      simp only [Fields.places, List.forall_mem_append] at apart
      obtain ⟨inside, behind⟩ := apart
      rw [Fields.concealed, Fields.toJson, Fields.toJson,
        rest.toJson_concealed owner behind others]
      cases value with
      | none => rfl
      | some value =>
          simp only [Option.map_some, Json.ofOption, members.nameOf_concealed,
            members.toJson_concealed inside value]

theorem Members.toJson_concealed : (members : Members) →
    (∀ place ∈ members.places .shown, hidden.contains place = false) → (choice : members.Choice) →
      members.toJson (members.concealed hidden choice) = members.toJson choice
  | .scalar _ _ _ _, _, .inl _ => rfl
  | .scalar _ _ _ rest, apart, .inr choice => rest.toJson_concealed apart choice
  | .message _ _ type _, apart, .inl value =>
      type.toJson_concealed (List.forall_mem_append.mp apart).1 value
  | .message _ _ _ rest, apart, .inr choice =>
      rest.toJson_concealed (List.forall_mem_append.mp apart).2 choice

end

end RadioSnapshot.Schema
