import RadioSnapshot.Schema.Message

/-!
# Comparing records

Whether two records of a message type are the same is decided component by component, along
the description of the type.
-/

namespace RadioSnapshot.Schema

def ScalarType.decideEq : (type : ScalarType) → DecidableEq type.Value
  | .uint32 | .fixed32 => inferInstanceAs (DecidableEq UInt32)
  | .int32 => inferInstanceAs (DecidableEq Int32)
  | .bool => inferInstanceAs (DecidableEq Bool)
  | .float => inferInstanceAs (DecidableEq Binary32)
  | .string => inferInstanceAs (DecidableEq String)
  | .bytes => inferInstanceAs (DecidableEq (List UInt8))

instance (type : ScalarType) : DecidableEq type.Value := type.decideEq

mutual

def MessageType.decideEq : (type : MessageType) → DecidableEq type.Record
  | .mk _ fields => fields.decideEq

def Fields.decideEq : (fields : Fields) → DecidableEq fields.Record
  | .done => inferInstanceAs (DecidableEq Unit)
  | .plain _ _ _ type rest =>
      letI := rest.decideEq
      inferInstanceAs (DecidableEq (type.Value × rest.Record))
  | .optional _ _ type rest =>
      letI := rest.decideEq
      inferInstanceAs (DecidableEq (Option type.Value × rest.Record))
  | .byteStrings _ _ rest =>
      letI := rest.decideEq
      inferInstanceAs (DecidableEq (List (List UInt8) × rest.Record))
  | .message _ _ type rest =>
      letI := type.decideEq
      letI := rest.decideEq
      inferInstanceAs (DecidableEq (Option type.Record × rest.Record))
  | .choice _ _ _ members rest =>
      letI := members.decideEq
      letI := rest.decideEq
      inferInstanceAs (DecidableEq (Option members.Choice × rest.Record))

def Members.decideEq : (members : Members) → DecidableEq members.Choice
  | .done => inferInstanceAs (DecidableEq Empty)
  | .scalar _ _ type rest =>
      letI := rest.decideEq
      inferInstanceAs (DecidableEq (type.Value ⊕ rest.Choice))
  | .message _ _ type rest =>
      letI := type.decideEq
      letI := rest.decideEq
      inferInstanceAs (DecidableEq (type.Record ⊕ rest.Choice))

end

instance (type : MessageType) : DecidableEq type.Record := type.decideEq

instance (members : Members) : DecidableEq members.Choice := members.decideEq

end RadioSnapshot.Schema
