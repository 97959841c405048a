import RadioSnapshot.Radio.HardwareModel
import RadioSnapshot.Session.Report

/-!
# Wordings of a report's parts

The texts that summaries for people are made of.
-/

namespace RadioSnapshot

open Radio

/-- Eight hexadecimal digits. -/
def hexWord (word : UInt32) : String :=
  let value := word.toNat
  Hex.encode
    [UInt8.ofNat (value / 0x1000000), UInt8.ofNat (value / 0x10000), UInt8.ofNat (value / 0x100),
      UInt8.ofNat value]

/-- A node number in decimal and in hexadecimal. -/
def nodeNumberText : Option UInt32 → String
  | none => "unknown"
  | some number => toString number.toNat ++ " (0x" ++ hexWord number ++ ")"

def Snapshot.firmwareText (snapshot : Snapshot) : String :=
  match snapshot.metadata with
  | none => ""
  | some metadata => metadata.firmwareVersion

/-- The name of the hardware model, or its number if it has no known name. -/
def Snapshot.hardwareModelText (snapshot : Snapshot) : String :=
  match snapshot.metadata with
  | none => ""
  | some metadata =>
      (hardwareModelName? metadata.hardwareModel).getD
        (toString metadata.hardwareModel.toInt)

/-- A channel by its number and name. -/
def channelText (channel : Channel) : String :=
  let name := (channel.settings.map ChannelSettings.name).getD ""
  toString channel.index.toInt ++ ":" ++ if name.isEmpty then "default" else name

/-- The number of channels, and those that are in use. -/
def Snapshot.channelsText (snapshot : Snapshot) : String :=
  let count := toString snapshot.channels.length
  let used := snapshot.channels.filter fun channel => channel.role != 0
  if used.isEmpty then count
  else count ++ " (" ++ ", ".intercalate (used.map channelText) ++ ")"

def truthText (value : Bool) : String :=
  if value then "true" else "false"

/-- An outcome in words. -/
def Outcome.text : Outcome → String
  | .completed => "completed"
  | .timedOut => "timed out"
  | .endOfInput => "end of input"

end RadioSnapshot
