import RadioSnapshot.Schema.Message

/-!
# Display of records

A record is shown as an object with a member for each field, in order, save the
secret ones. A choice is shown under the name of its field, either as an object
with the present member's name or as the bare value.
-/

namespace RadioSnapshot.Schema

/-- The value of the member with this name. -/
def Labelling.label (name : String) (value : Json) : Labelling → Json
  | .labelled => .object [(name, value)]
  | .bare => value

mutual

/-- A record as a JSON object. -/
def MessageType.toJson : (type : MessageType) → type.Record → Json
  | .mk _ fields, record => .object (fields.toJson record)

def Fields.toJson : (fields : Fields) → fields.Record → List (String × Json)
  | .done, _ => []
  | .plain .shown _ name type rest, (value, others) =>
      (name, type.toJson value) :: rest.toJson others
  | .plain .secret _ _ _ rest, (_, others) => rest.toJson others
  | .optional _ name type rest, (value, others) =>
      (name, Json.ofOption type.toJson value) :: rest.toJson others
  | .byteStrings _ name rest, (values, others) =>
      (name, .array (values.map ScalarType.bytes.toJson)) :: rest.toJson others
  | .message _ name type rest, (value, others) =>
      (name, Json.ofOption (fun value => type.toJson value) value) :: rest.toJson others
  | .choice _ name labelling members rest, (value, others) =>
      (name, Json.ofOption (fun value =>
        labelling.label (members.nameOf value) (members.toJson value)) value) ::
        rest.toJson others

/-- The value of the present member. -/
def Members.toJson : (members : Members) → members.Choice → Json
  | .scalar _ _ type _, .inl value => type.toJson value
  | .scalar _ _ _ rest, .inr choice => rest.toJson choice
  | .message _ _ type _, .inl value => type.toJson value
  | .message _ _ _ rest, .inr choice => rest.toJson choice

end

end RadioSnapshot.Schema
