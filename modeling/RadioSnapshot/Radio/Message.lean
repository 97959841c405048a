import RadioSnapshot.Radio.Envelope
import RadioSnapshot.Schema.Decode

/-!
# Messages from the radio

`Message` is what a payload from the radio says, once its envelope is opened.
Every kind of envelope gives exactly one kind of message; an envelope without a
known variant, or a configuration message without a known section, gives none.
-/

namespace RadioSnapshot.Radio

open Schema

/-- Kinds of message that have no bearing on the configuration. -/
inductive OtherKind where
  | packet
  | rebooted
  | queueStatus
  deriving BEq, DecidableEq, Repr

/-- A message from the radio. -/
inductive Message where
  /-- The number and the hardware identifier of the radio itself. -/
  | nodeIdentity (info : MyNodeInfo)
  /-- An entry of the node database. -/
  | nodeRecord (node : NodeInfo)
  | metadata (metadata : DeviceMetadata)
  | config (settings : ConfigSection)
  | moduleConfig (settings : ModuleSection)
  | channel (channel : Channel)
  /-- The configuration asked for by this request has been sent. -/
  | configComplete (request : UInt32)
  | logRecord (record : LogRecord)
  | other (kind : OtherKind)

def OtherKind.name : OtherKind → String
  | .packet => "packet"
  | .rebooted => "rebooted"
  | .queueStatus => "queue_status"

/-- The name of a message's kind. -/
def Message.kind : Message → String
  | .nodeIdentity _ => "my_info"
  | .nodeRecord _ => "node_info"
  | .metadata _ => "metadata"
  | .config _ => "config"
  | .moduleConfig _ => "module_config"
  | .channel _ => "channel"
  | .configComplete _ => "config_complete_id"
  | .logRecord _ => "log_record"
  | .other kind => kind.name

/-- The name of a configuration section. -/
def ConfigSection.name (settings : ConfigSection) : String :=
  configSections.nameOf settings

/-- The name of a module configuration section. -/
def ModuleSection.name (settings : ModuleSection) : String :=
  moduleSections.nameOf settings

/-- The messages of which exactly one variant has to be present. -/
inductive Container where
  | fromRadio
  | config
  | moduleConfig
  deriving BEq, DecidableEq, Repr

def Container.name : Container → String
  | .fromRadio => "from_radio"
  | .config => "config"
  | .moduleConfig => "module_config"

/-- Why a payload gives no message. -/
inductive PayloadError where
  | malformed (error : Wire.DecodeError)
  | missingVariant (container : Container)
  deriving BEq, DecidableEq, Repr

def PayloadError.message : PayloadError → String
  | .malformed error => "protobuf decode error: " ++ error.message
  | .missingVariant container => "unknown " ++ container.name ++ " variant"

/-- The message inside an envelope. -/
def Message.ofEnvelope (envelope : FromRadio) : Except PayloadError Message :=
  match envelope.variant with
  | none => .error (.missingVariant .fromRadio)
  | some (.packet _) => .ok (.other .packet)
  | some (.myInfo info) => .ok (.nodeIdentity info)
  | some (.nodeInfo node) => .ok (.nodeRecord node)
  | some (.config holder) =>
      match holder.sectionOf with
      | some settings => .ok (.config settings)
      | none => .error (.missingVariant .config)
  | some (.logRecord record) => .ok (.logRecord record)
  | some (.configComplete request) => .ok (.configComplete request)
  | some (.rebooted _) => .ok (.other .rebooted)
  | some (.moduleConfig holder) =>
      match holder.sectionOf with
      | some settings => .ok (.moduleConfig settings)
      | none => .error (.missingVariant .moduleConfig)
  | some (.channel slot) => .ok (.channel slot)
  | some (.queueStatus _) => .ok (.other .queueStatus)
  | some (.metadata descriptors) => .ok (.metadata descriptors)

/-- The message that a payload carries. -/
def Message.decode (payload : List UInt8) : Except PayloadError Message :=
  match fromRadio.decode payload with
  | .ok envelope => ofEnvelope envelope
  | .error error => .error (.malformed error)

/-- How payloads are read and requests are written. -/
structure Codec where
  decode : List UInt8 → Except PayloadError Message
  encodeRequest : UInt32 → List UInt8

/-- Payloads are envelopes. -/
def Codec.envelope : Codec where
  decode := Message.decode
  encodeRequest request := toRadio.encode (ToRadio.configRequest request)

/-- The number of the request for the configuration. -/
def configRequestId : UInt32 := 64

end RadioSnapshot.Radio
