import RadioSnapshot.Proofs.Text.JsonText
import RadioSnapshot.Schema.Display

/-!
# What records say

A reader of JSON is to find in a record's text an object with a member for each field that is
displayed, in order. What such a member says is fixed here by the type of the field and not by
the way in which the field is written: numbers and truth values say what they are, texts are
texts, bytes are texts of hexadecimal digits, and what is missing is null. Single-precision
numbers alone say what is written for them, as they have no text that is theirs.
-/

namespace RadioSnapshot

namespace Schema

/-- The hexadecimal digits, by what they stand for. -/
def hexDigits : List Char :=
  ['0', '1', '2', '3', '4', '5', '6', '7', '8', '9', 'a', 'b', 'c', 'd', 'e', 'f']

/-- Two digits for each byte, the more significant first. -/
def hexText (bytes : List UInt8) : String :=
  .ofList (bytes.flatMap fun byte =>
    [hexDigits[byte.toNat / 16]!, hexDigits[byte.toNat % 16]!])

/-- What a field of this type says. -/
def ScalarType.document : (type : ScalarType) → type.Value → Document
  | .uint32, value => .integer value.toNat
  | .int32, value => .integer value.toInt
  | .bool, value => .bool value
  | .fixed32, value => .integer value.toNat
  | .float, value => if value.isFinite then .fractional value.text else .null
  | .string, value => .string value
  | .bytes, value => .string (hexText value)

/-- What a member of a choice says, with its name around it or without. -/
def Labelling.document (member : String × Document) : Labelling → Document
  | .labelled => .object [member]
  | .bare => member.2

mutual

/-- What a record says. -/
def MessageType.document : (type : MessageType) → type.Record → Document
  | .mk _ fields, record => .object (fields.document record)

def Fields.document : (fields : Fields) → fields.Record → List (String × Document)
  | .done, _ => []
  | .plain .shown _ name type rest, (value, others) =>
      (name, type.document value) :: rest.document others
  | .plain .secret _ _ _ rest, (_, others) => rest.document others
  | .optional _ name type rest, (value, others) =>
      (name, value.elim .null type.document) :: rest.document others
  | .byteStrings _ name rest, (values, others) =>
      (name, .array (values.map fun bytes => .string (hexText bytes))) :: rest.document others
  | .message _ name type rest, (value, others) =>
      (name, value.elim .null fun value => type.document value) :: rest.document others
  | .choice _ name labelling members rest, (value, others) =>
      (name, value.elim .null fun value => labelling.document (members.document value)) ::
        rest.document others

/-- The name of the member that is present, and what it says. -/
def Members.document : (members : Members) → members.Choice → String × Document
  | .scalar _ name type _, .inl value => (name, type.document value)
  | .scalar _ _ _ rest, .inr choice => rest.document choice
  | .message _ name type _, .inl value => (name, type.document value)
  | .message _ _ _ rest, .inr choice => rest.document choice

end

/-! ## Records are written as what they say -/

theorem encode_eq_hexText (bytes : List UInt8) : Hex.encode bytes = hexText bytes := by
  have digit : ∀ value < 16, Hex.digit value = hexDigits[value]! := by decide
  have digits (byte : UInt8) :
      Hex.digits byte = [hexDigits[byte.toNat / 16]!, hexDigits[byte.toNat % 16]!] := by
    have small := byte.toNat_lt
    rw [Hex.digits, digit _ (by omega), digit _ (Nat.mod_lt _ (by decide))]
  rw [Hex.encode, hexText, funext digits]

theorem hexText_injective {first second : List UInt8} (same : hexText first = hexText second) :
    first = second := by
  rw [← encode_eq_hexText, ← encode_eq_hexText] at same
  exact Hex.encode_injective same

theorem ScalarType.document_toJson (type : ScalarType) (value : type.Value) :
    (type.toJson value).document = type.document value := by
  cases type with
  | bytes => exact congrArg Document.string (encode_eq_hexText value)
  | _ => rfl

theorem document_ofOption {α : Type} {encode : α → Json} {said : α → Document}
    (each : ∀ value, (encode value).document = said value) (value : Option α) :
    (Json.ofOption encode value).document = value.elim .null said := by
  cases value with
  | none => rfl
  | some value => exact each value

theorem Labelling.document_label (name : String) (value : Json) (labelling : Labelling) :
    (labelling.label name value).document = labelling.document (name, value.document) := by
  cases labelling <;> rfl

mutual

/-- A record is written as what it says. -/
theorem MessageType.document_toJson : (type : MessageType) → (record : type.Record) →
    (type.toJson record).document = type.document record
  | .mk _ fields, record => congrArg Document.object (fields.document_toJson record)

theorem Fields.document_toJson : (fields : Fields) → (record : fields.Record) →
    Json.memberDocuments (fields.toJson record) = fields.document record
  | .done, _ => rfl
  | .plain .shown _ name type rest, (value, others) => by
      rw [Fields.toJson, Json.memberDocuments, type.document_toJson, rest.document_toJson,
        Fields.document]
  | .plain .secret _ _ _ rest, (_, others) => rest.document_toJson others
  | .optional _ name type rest, (value, others) => by
      rw [Fields.toJson, Json.memberDocuments, document_ofOption type.document_toJson,
        rest.document_toJson, Fields.document]
  | .byteStrings _ name rest, (values, others) => by
      have strings : Json.documents (values.map ScalarType.bytes.toJson) =
          values.map fun bytes => .string (hexText bytes) := by
        rw [Json.documents_eq_map, List.map_map]
        exact List.map_congr_left fun bytes _ => ScalarType.bytes.document_toJson bytes
      rw [Fields.toJson, Json.memberDocuments, Json.document, strings, rest.document_toJson,
        Fields.document]
  | .message _ name type rest, (value, others) => by
      rw [Fields.toJson, Json.memberDocuments, document_ofOption type.document_toJson,
        rest.document_toJson, Fields.document]
  | .choice _ name labelling members rest, (value, others) => by
      have present (value : members.Choice) :
          (labelling.label (members.nameOf value) (members.toJson value)).document =
            labelling.document (members.document value) := by
        rw [labelling.document_label, members.document_toJson]
      rw [Fields.toJson, Json.memberDocuments, document_ofOption present, rest.document_toJson,
        Fields.document]

/-- The present member is written under its name as what it says. -/
theorem Members.document_toJson : (members : Members) → (choice : members.Choice) →
    (members.nameOf choice, (members.toJson choice).document) = members.document choice
  | .scalar _ name type _, .inl value => congrArg (Prod.mk name) (type.document_toJson value)
  | .scalar _ _ _ rest, .inr choice => rest.document_toJson choice
  | .message _ name type _, .inl value => congrArg (Prod.mk name) (type.document_toJson value)
  | .message _ _ _ rest, .inr choice => rest.document_toJson choice

end

end Schema

end RadioSnapshot
