import RadioSnapshot.Schema.Message

/-!
# Messages about nodes and channels

The descriptions of the messages that a radio sends about itself, about the
nodes it knows and about its channels, and the few of their fields that a
snapshot is made of.
-/

namespace RadioSnapshot.Radio

open Schema

/-- Traffic relayed from the mesh. Only the routing header is kept. -/
def meshPacket : MessageType := .mk "MeshPacket" <|
  .scalar 1 "from" .fixed32 <|
  .scalar 2 "to" .fixed32 <|
  .scalar 3 "channel" .uint32 <|
  .scalar 6 "id" .fixed32 <|
  .done

/-- What the radio says about itself: its node number and hardware identifier. -/
def myNodeInfo : MessageType := .mk "MyNodeInfo" <|
  .scalar 1 "my_node_num" .uint32 <|
  .scalar 8 "reboot_count" .uint32 <|
  .scalar 11 "min_app_version" .uint32 <|
  .scalar 12 "device_id" .bytes <|
  .scalar 13 "pio_env" .string <|
  .done

/-- The owner of a node. Older radios give their hardware identifier only here, as
`macaddr`. -/
def user : MessageType := .mk "User" <|
  .scalar 1 "id" .string <|
  .scalar 2 "long_name" .string <|
  .scalar 3 "short_name" .string <|
  .scalar 4 "macaddr" .bytes <|
  .scalar 5 "hw_model" .int32 <|
  .scalar 6 "is_licensed" .bool <|
  .scalar 7 "role" .int32 <|
  .scalar 8 "public_key" .bytes <|
  .done

/-- An entry of the radio's node database. -/
def nodeInfo : MessageType := .mk "NodeInfo" <|
  .scalar 1 "num" .uint32 <|
  .message 2 "user" user <|
  .scalar 4 "snr" .float <|
  .scalar 5 "last_heard" .fixed32 <|
  .scalar 7 "channel" .uint32 <|
  .scalar 8 "via_mqtt" .bool <|
  .optional 9 "hops_away" .uint32 <|
  .done

/-- Firmware and hardware descriptors. -/
def deviceMetadata : MessageType := .mk "DeviceMetadata" <|
  .scalar 1 "firmware_version" .string <|
  .scalar 2 "device_state_version" .uint32 <|
  .scalar 3 "can_shutdown" .bool <|
  .scalar 4 "has_wifi" .bool <|
  .scalar 5 "has_bluetooth" .bool <|
  .scalar 6 "has_ethernet" .bool <|
  .scalar 7 "role" .int32 <|
  .scalar 8 "position_flags" .uint32 <|
  .scalar 9 "hw_model" .int32 <|
  .scalar 10 "has_remote_hardware" .bool <|
  .done

/-- A log line of the firmware. -/
def logRecord : MessageType := .mk "LogRecord" <|
  .scalar 1 "message" .string <|
  .scalar 2 "time" .fixed32 <|
  .scalar 3 "source" .string <|
  .scalar 4 "level" .int32 <|
  .done

/-- How full the transmission queue is. -/
def queueStatus : MessageType := .mk "QueueStatus" <|
  .scalar 1 "res" .int32 <|
  .scalar 2 "free" .uint32 <|
  .scalar 3 "maxlen" .uint32 <|
  .scalar 4 "mesh_packet_id" .uint32 <|
  .done

/-- The key and name of a channel. -/
def channelSettings : MessageType := .mk "ChannelSettings" <|
  .scalar 1 "channel_num" .uint32 <|
  .scalar 2 "psk" .bytes <|
  .scalar 3 "name" .string <|
  .scalar 4 "id" .fixed32 <|
  .scalar 5 "uplink_enabled" .bool <|
  .scalar 6 "downlink_enabled" .bool <|
  .done

/-- A channel slot. Role 0 is disabled, 1 primary, 2 secondary. -/
def channel : MessageType := .mk "Channel" <|
  .scalar 1 "index" .int32 <|
  .message 2 "settings" channelSettings <|
  .scalar 3 "role" .int32 <|
  .done

abbrev MeshPacket := meshPacket.Record
abbrev MyNodeInfo := myNodeInfo.Record
abbrev User := user.Record
abbrev NodeInfo := nodeInfo.Record
abbrev DeviceMetadata := deviceMetadata.Record
abbrev LogRecord := logRecord.Record
abbrev QueueStatus := queueStatus.Record
abbrev ChannelSettings := channelSettings.Record
abbrev Channel := channel.Record

def MyNodeInfo.nodeNumber (info : MyNodeInfo) : UInt32 := info.1

def MyNodeInfo.deviceId (info : MyNodeInfo) : List UInt8 := info.2.2.2.1

def User.id (user : User) : String := user.1

def User.longName (user : User) : String := user.2.1

def User.shortName (user : User) : String := user.2.2.1

def User.hardwareAddress (user : User) : List UInt8 := user.2.2.2.1

def NodeInfo.number (node : NodeInfo) : UInt32 := node.1

def NodeInfo.user (node : NodeInfo) : Option User := node.2.1

def DeviceMetadata.firmwareVersion (metadata : DeviceMetadata) : String := metadata.1

def DeviceMetadata.hardwareModel (metadata : DeviceMetadata) : Int32 :=
  metadata.2.2.2.2.2.2.2.2.1

def LogRecord.text (record : LogRecord) : String := record.1

def LogRecord.source (record : LogRecord) : String := record.2.2.1

def ChannelSettings.name (settings : ChannelSettings) : String := settings.2.2.1

def Channel.index (channel : Channel) : Int32 := channel.1

def Channel.settings (channel : Channel) : Option ChannelSettings := channel.2.1

def Channel.role (channel : Channel) : Int32 := channel.2.2.1

end RadioSnapshot.Radio
