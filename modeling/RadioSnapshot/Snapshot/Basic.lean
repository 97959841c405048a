import RadioSnapshot.Radio.Message
import RadioSnapshot.Schema.Display
import RadioSnapshot.Snapshot.NameTable

/-!
# Snapshots of a radio's configuration

A snapshot is put together from many messages. It starts out empty, and it
identifies its radio once the node number and a hardware identifier are known.
-/

namespace RadioSnapshot

open Radio

/-- What is known of a radio. -/
structure Snapshot where
  nodeNumber : Option UInt32
  deviceIdentity : Option (List UInt8)
  hardwareId : String
  longName : String
  shortName : String
  metadata : Option DeviceMetadata
  /-- The latest settings of each configuration section. -/
  config : NameTable ConfigSection
  /-- The latest settings of each module. -/
  moduleConfig : NameTable ModuleSection
  /-- Channels in the order of their arrival. -/
  channels : List Channel
  /-- Whether the radio said that the configuration is sent. -/
  configComplete : Bool

namespace Snapshot

def empty : Snapshot where
  nodeNumber := none
  deviceIdentity := none
  hardwareId := ""
  longName := ""
  shortName := ""
  metadata := none
  config := .empty
  moduleConfig := .empty
  channels := []
  configComplete := false

/-- The radio is identified. -/
def isReady (snapshot : Snapshot) : Bool :=
  snapshot.nodeNumber.isSome && !snapshot.hardwareId.isEmpty

/-- The radio is identified and has sent its whole configuration. -/
def isResolved (snapshot : Snapshot) : Bool :=
  snapshot.configComplete && snapshot.isReady

/-- A snapshot as JSON. -/
def toJson (snapshot : Snapshot) : Except JsonError Json := do
  let config ← snapshot.config.toJson configSections.toJson
  let moduleConfig ← snapshot.moduleConfig.toJson moduleSections.toJson
  .ok (.object
    [ ("node_number", .ofOption (fun (number : UInt32) => .nat number.toNat)
        snapshot.nodeNumber),
      ("device_identity", .ofOption (fun identity => .string (Hex.encode identity))
        snapshot.deviceIdentity),
      ("hardware_id", .string snapshot.hardwareId),
      ("long_name", .string snapshot.longName),
      ("short_name", .string snapshot.shortName),
      ("metadata", .ofOption deviceMetadata.toJson snapshot.metadata),
      ("config", config),
      ("module_config", moduleConfig),
      ("channels", .array (snapshot.channels.map channel.toJson)),
      ("config_complete", .bool snapshot.configComplete) ])

end Snapshot

end RadioSnapshot
