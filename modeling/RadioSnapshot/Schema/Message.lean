import RadioSnapshot.Schema.Scalar

/-!
# Message types

A message type is a named chain of fields in ascending tag order. Its values are
records: nested pairs, one component for each field, computed from the
description. Encoding, decoding and display are defined once, by recursion on
the description, in the modules beside this one.

Besides plain scalar fields, which always have a value, there are fields that
may be absent, lists of byte strings, nested messages, and choices of which at
most one member is present.
-/

namespace RadioSnapshot.Schema

/-- Whether a field is part of what is displayed. -/
inductive Visibility where
  | shown
  | secret
  deriving BEq, DecidableEq, Repr

/-- How a present member of a choice is displayed: under its own name, or as the
bare value. -/
inductive Labelling where
  | labelled
  | bare
  deriving BEq, DecidableEq, Repr

mutual

/-- A message type: the name used in error texts, and the fields. -/
inductive MessageType where
  | mk (name : String) (fields : Fields)

/-- The fields of a message type. -/
inductive Fields where
  | done
  | plain (visibility : Visibility) (tag : Nat) (name : String) (type : ScalarType)
      (rest : Fields)
  | optional (tag : Nat) (name : String) (type : ScalarType) (rest : Fields)
  | byteStrings (tag : Nat) (name : String) (rest : Fields)
  | message (tag : Nat) (name : String) (type : MessageType) (rest : Fields)
  /-- The field lists the tags that it answers to. -/
  | choice (tags : List Nat) (name : String) (labelling : Labelling) (members : Members)
      (rest : Fields)

/-- The members of a choice. -/
inductive Members where
  | done
  | scalar (tag : Nat) (name : String) (type : ScalarType) (rest : Members)
  | message (tag : Nat) (name : String) (type : MessageType) (rest : Members)

end

/-- A field that is displayed. -/
abbrev Fields.scalar (tag : Nat) (name : String) (type : ScalarType) (rest : Fields) : Fields :=
  .plain .shown tag name type rest

/-- A field that is read but never displayed. -/
abbrev Fields.secret (tag : Nat) (name : String) (type : ScalarType) (rest : Fields) : Fields :=
  .plain .secret tag name type rest

def MessageType.name : MessageType → String
  | .mk name _ => name

def MessageType.fields : MessageType → Fields
  | .mk _ fields => fields

mutual

/-- The values of a message type. -/
def MessageType.Record : MessageType → Type
  | .mk _ fields => fields.Record

/-- One component for each field, in order. -/
def Fields.Record : Fields → Type
  | .done => Unit
  | .plain _ _ _ type rest => type.Value × rest.Record
  | .optional _ _ type rest => Option type.Value × rest.Record
  | .byteStrings _ _ rest => List (List UInt8) × rest.Record
  | .message _ _ type rest => Option type.Record × rest.Record
  | .choice _ _ _ members rest => Option members.Choice × rest.Record

/-- The value of one member. -/
def Members.Choice : Members → Type
  | .done => Empty
  | .scalar _ _ type rest => type.Value ⊕ rest.Choice
  | .message _ _ type rest => type.Record ⊕ rest.Choice

end

/-- The record of a message without any fields on the wire. -/
def Fields.blank : (fields : Fields) → fields.Record
  | .done => ()
  | .plain _ _ _ type rest => (type.blank, rest.blank)
  | .optional _ _ _ rest => (none, rest.blank)
  | .byteStrings _ _ rest => ([], rest.blank)
  | .message _ _ _ rest => (none, rest.blank)
  | .choice _ _ _ _ rest => (none, rest.blank)

def MessageType.blank : (type : MessageType) → type.Record
  | .mk _ fields => fields.blank

/-- The name of the member that is present. -/
def Members.nameOf : (members : Members) → members.Choice → String
  | .scalar _ name _ _, .inl _ => name
  | .scalar _ _ _ rest, .inr choice => rest.nameOf choice
  | .message _ name _ _, .inl _ => name
  | .message _ _ _ rest, .inr choice => rest.nameOf choice

/-- The tags of the members, in order. -/
def Members.tags : Members → List Nat
  | .done => []
  | .scalar tag _ _ rest => tag :: rest.tags
  | .message tag _ _ rest => tag :: rest.tags

/-- The tags that belong to the fields, in order. -/
def Fields.tags : Fields → List Nat
  | .done => []
  | .plain _ tag _ _ rest => tag :: rest.tags
  | .optional tag _ _ rest => tag :: rest.tags
  | .byteStrings tag _ rest => tag :: rest.tags
  | .message tag _ _ rest => tag :: rest.tags
  | .choice tags _ _ _ rest => tags ++ rest.tags

end RadioSnapshot.Schema
