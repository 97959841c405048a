import RadioSnapshot.Radio.Config
import RadioSnapshot.Radio.ModuleConfig
import RadioSnapshot.Radio.Node
import RadioSnapshot.Schema.Encode

/-!
# Envelopes

Every payload on the link is one envelope: `fromRadio` from the radio to the
host, `toRadio` the other way.
-/

namespace RadioSnapshot.Radio

open Schema

/-- What the radio may send. -/
def fromRadioVariants : Members :=
  .message 2 "Packet" meshPacket <|
  .message 3 "MyInfo" myNodeInfo <|
  .message 4 "NodeInfo" nodeInfo <|
  .message 5 "Config" config <|
  .message 6 "LogRecord" logRecord <|
  .scalar 7 "ConfigCompleteId" .uint32 <|
  .scalar 8 "Rebooted" .bool <|
  .message 9 "ModuleConfig" moduleConfig <|
  .message 10 "Channel" channel <|
  .message 11 "QueueStatus" queueStatus <|
  .message 13 "Metadata" deviceMetadata <|
  .done

/-- What a host may send. -/
def toRadioVariants : Members :=
  .scalar 3 "WantConfigId" .uint32 <|
  .scalar 4 "Disconnect" .bool <|
  .done

/-- The envelope of everything that the radio sends. -/
def fromRadio : MessageType := .mk "FromRadio" <|
  .scalar 1 "id" .uint32 <|
  .choice [2, 3, 4, 5, 6, 7, 8, 9, 10, 11, 13] "payload_variant" .labelled fromRadioVariants <|
  .done

/-- The envelope of everything that a host sends. -/
def toRadio : MessageType := .mk "ToRadio" <|
  .choice [3, 4] "payload_variant" .labelled toRadioVariants <|
  .done

abbrev FromRadio := fromRadio.Record
abbrev ToRadio := toRadio.Record

namespace FromRadio

abbrev Variant := fromRadioVariants.Choice

def variant (envelope : FromRadio) : Option Variant := envelope.2.1

@[match_pattern] abbrev Variant.packet (packet : MeshPacket) : Variant :=
  .inl packet

@[match_pattern] abbrev Variant.myInfo (info : MyNodeInfo) : Variant :=
  .inr (.inl info)

@[match_pattern] abbrev Variant.nodeInfo (node : NodeInfo) : Variant :=
  .inr (.inr (.inl node))

@[match_pattern] abbrev Variant.config (config : Config) : Variant :=
  .inr (.inr (.inr (.inl config)))

@[match_pattern] abbrev Variant.logRecord (record : LogRecord) : Variant :=
  .inr (.inr (.inr (.inr (.inl record))))

@[match_pattern] abbrev Variant.configComplete (request : UInt32) : Variant :=
  .inr (.inr (.inr (.inr (.inr (.inl request)))))

@[match_pattern] abbrev Variant.rebooted (value : Bool) : Variant :=
  .inr (.inr (.inr (.inr (.inr (.inr (.inl value))))))

@[match_pattern] abbrev Variant.moduleConfig (config : ModuleConfig) : Variant :=
  .inr (.inr (.inr (.inr (.inr (.inr (.inr (.inl config)))))))

@[match_pattern] abbrev Variant.channel (channel : Channel) : Variant :=
  .inr (.inr (.inr (.inr (.inr (.inr (.inr (.inr (.inl channel))))))))

@[match_pattern] abbrev Variant.queueStatus (status : QueueStatus) : Variant :=
  .inr (.inr (.inr (.inr (.inr (.inr (.inr (.inr (.inr (.inl status)))))))))

@[match_pattern] abbrev Variant.metadata (metadata : DeviceMetadata) : Variant :=
  .inr (.inr (.inr (.inr (.inr (.inr (.inr (.inr (.inr (.inr (.inl metadata))))))))))

end FromRadio

/-- The request that makes a radio send its whole configuration. The radio
closes its answer by repeating the number of the request. -/
def ToRadio.configRequest (request : UInt32) : ToRadio :=
  (some (.inl request), ())

end RadioSnapshot.Radio
