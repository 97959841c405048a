import RadioSnapshot.Schema.Message

/-!
# Decoding of records

A message is read field by field into a record that starts out blank. Fields may
come in any order and more than once: the last plain value counts, lists grow,
nested messages merge, and a choice keeps the member seen last. Fields with
undeclared tags are passed over.

All of it reads one flat input. A nested message is only a position in that input
at which to stop: values are checked against the bytes that are left altogether,
and a field that runs past the end of its message is noticed when the message
ends.
-/

namespace RadioSnapshot.Schema

open Wire

/-- A value together with the input that follows it. -/
abbrev Parsed (α : Type) := Except DecodeError (α × List UInt8)

/-- What was read, put to use; the input is left alone. -/
def Parsed.map {α β : Type} (change : α → β) : Parsed α → Parsed β
  | .ok (value, rest) => .ok (change value, rest)
  | .error error => .error error

/-- A fault in a field of the message at hand. -/
def Parsed.inField {α : Type} (place : Place) : Parsed α → Parsed α
  | .ok result => .ok result
  | .error error => .error (error.within place)

/-- Reading that has not yet come to any field. -/
def Parsed.ofExcept {α : Type} : Except Fault (α × List UInt8) → Parsed α
  | .ok result => .ok result
  | .error fault => .error (.ofFault fault)

/-- Read fields until `stop` bytes of input are left. Every field takes at least
the byte of its key, so `budget`, the number of bytes at hand, bounds the number
of fields. -/
def readFields {α : Type} (readField : α → List UInt8 → Parsed α) (stop : Nat) :
    (budget : Nat) → α → List UInt8 → Parsed α
  | 0, record, input => finish record input
  | budget + 1, record, input =>
      if stop < input.length then
        match readField record input with
        | .ok (record, rest) => readFields readField stop budget record rest
        | .error error => .error error
      else finish record input
where
  finish (record : α) (input : List UInt8) : Parsed α :=
    if input.length < stop then .error (.ofFault .lengthExceeded) else .ok (record, input)

/-- Read a scalar that was laid out as its key says. -/
def ScalarType.readValue (type : ScalarType) (key : Key) (input : List UInt8) :
    Parsed type.Value :=
  match key.expect type.wireType with
  | .error fault => .error (.ofFault fault)
  | .ok () => .ofExcept (type.decode input)

/-- Read the length of a nested message and then its body, given how to read a
body one level further down that stops when so many bytes are left. -/
def readNested {α : Type} (readBody : (depth stop : Nat) → List UInt8 → Parsed α)
    (depth : Nat) (key : Key) (input : List UInt8) : Parsed α :=
  match key.expect .lengthDelimited, depth with
  | .error fault, _ => .error (.ofFault fault)
  | .ok (), 0 => .error (.ofFault .recursionLimit)
  | .ok (), depth + 1 =>
      match Varint.decode input with
      | .error fault => .error (.ofFault fault)
      | .ok (length, rest) =>
          if rest.length < length then .error (.ofFault .underflow)
          else readBody depth (rest.length - length) rest

/-- Read one field, key and value, given how to read the value of a declared one.
The value of an undeclared field is passed over. -/
def readField {α : Type} (depth : Nat)
    (merge? : Key → α → List UInt8 → Option (Parsed α)) (record : α) (input : List UInt8) :
    Parsed α :=
  match Key.decode input with
  | .error fault => .error (.ofFault fault)
  | .ok (key, rest) =>
      match merge? key record rest with
      | some parsed => parsed
      | none => .ofExcept ((skipValue depth key rest).map (record, ·))

mutual

/-- Read fields into a record until `stop` bytes of input are left, with `depth`
levels of nesting to go. -/
def MessageType.merge : (type : MessageType) → (depth stop : Nat) → type.Record →
    List UInt8 → Parsed type.Record
  | .mk name fields, depth, stop, record, input =>
      readFields (readField depth fun key record input =>
        fields.merge? name depth key record input) stop input.length record input

/-- Read the value after a key into the field that has its tag, if there is one.
Faults are placed in that field of the message `owner`. -/
def Fields.merge? (owner : String) (depth : Nat) (key : Key) :
    (fields : Fields) → fields.Record → List UInt8 → Option (Parsed fields.Record)
  | .done, _, _ => none
  | .plain _ tag name type rest, (value, others), input =>
      if key.tag = tag then
        some <| ((type.readValue key input).inField ⟨owner, name⟩).map (·, others)
      else (rest.merge? owner depth key others input).map (Parsed.map (value, ·))
  | .optional tag name type rest, (value, others), input =>
      if key.tag = tag then
        some <| ((type.readValue key input).inField ⟨owner, name⟩).map (some ·, others)
      else (rest.merge? owner depth key others input).map (Parsed.map (value, ·))
  | .byteStrings tag name rest, (values, others), input =>
      if key.tag = tag then
        some <| ((ScalarType.bytes.readValue key input).inField ⟨owner, name⟩).map
          fun value => (values ++ [value], others)
      else (rest.merge? owner depth key others input).map (Parsed.map (values, ·))
  | .message tag name type rest, (value, others), input =>
      if key.tag = tag then
        some <| ((readNested (fun depth stop input =>
          type.merge depth stop (value.getD type.blank) input) depth key input).inField
            ⟨owner, name⟩).map (some ·, others)
      else (rest.merge? owner depth key others input).map (Parsed.map (value, ·))
  | .choice tags name _ members rest, (value, others), input =>
      if tags.contains key.tag then
        (members.merge? depth key value input).map fun parsed =>
          (parsed.inField ⟨owner, name⟩).map (some ·, others)
      else (rest.merge? owner depth key others input).map (Parsed.map (value, ·))

/-- Read the value after a key as the member that has its tag, if there is one.
A message continues the one already there; anything else starts afresh. -/
def Members.merge? (depth : Nat) (key : Key) :
    (members : Members) → Option members.Choice → List UInt8 →
      Option (Parsed members.Choice)
  | .done, _, _ => none
  | .scalar tag _ type rest, value, input =>
      if key.tag = tag then some ((type.readValue key input).map .inl)
      else (rest.merge? depth key (value.bind Sum.getRight?) input).map (Parsed.map .inr)
  | .message tag _ type rest, value, input =>
      if key.tag = tag then
        some <| (readNested (fun depth stop input =>
          type.merge depth stop ((value.bind Sum.getLeft?).getD type.blank) input)
            depth key input).map .inl
      else (rest.merge? depth key (value.bind Sum.getRight?) input).map (Parsed.map .inr)

end

/-- Read a whole input as one message. -/
def MessageType.decode (type : MessageType) (input : List UInt8) :
    Except DecodeError type.Record :=
  match type.merge maxDepth 0 type.blank input with
  | .ok (record, _) => .ok record
  | .error error => .error error

end RadioSnapshot.Schema
