import RadioSnapshot.Snapshot.Basic

/-!
# Merging messages into a snapshot

The first real node number identifies the radio, and the first hardware address
that comes with it stays. Names and settings are replaced by later ones. Messages
about other nodes, and messages that repeat what is settled, have no effect.
-/

namespace RadioSnapshot

open Radio

/-- What a message did to a snapshot. -/
inductive MergeEffect where
  | applied
  | ignored
  /-- The radio said that it has sent what was asked for. -/
  | candidateComplete
  deriving BEq, DecidableEq, Repr

/-- The most channels that a radio can have. -/
def maxChannels : Nat := 8

namespace Snapshot

/-- Keep the first identity that is not empty. -/
def offerIdentity (identity : List UInt8) (snapshot : Snapshot) : Snapshot :=
  if snapshot.deviceIdentity.isNone && !identity.isEmpty then
    { snapshot with deviceIdentity := some identity }
  else snapshot

/-- A radio says who it is. Number zero is what a radio says that has none yet,
and a second number is not believed. -/
def applyIdentity (info : MyNodeInfo) (snapshot : Snapshot) : MergeEffect × Snapshot :=
  if info.nodeNumber = 0 then (.ignored, snapshot)
  else
    match snapshot.nodeNumber with
    | none =>
        (.applied, { snapshot with nodeNumber := some info.nodeNumber }.offerIdentity
          info.deviceId)
    | some known =>
        if known = info.nodeNumber then (.applied, snapshot.offerIdentity info.deviceId)
        else (.ignored, snapshot)

/-- An entry of the node database counts when it is the radio's own. -/
def applyRecord (node : NodeInfo) (snapshot : Snapshot) : MergeEffect × Snapshot :=
  if snapshot.nodeNumber = some node.number then
    match node.user with
    | none => (.ignored, snapshot)
    | some user =>
        (.applied, { snapshot with
          hardwareId := user.id
          longName := user.longName
          shortName := user.shortName }.offerIdentity user.hardwareAddress)
  else (.ignored, snapshot)

/-- Merge one message, given the number of the request for the configuration. -/
def apply (request : UInt32) (message : Message) (snapshot : Snapshot) :
    MergeEffect × Snapshot :=
  match message with
  | .nodeIdentity info => snapshot.applyIdentity info
  | .nodeRecord node => snapshot.applyRecord node
  | .metadata metadata => (.applied, { snapshot with metadata := some metadata })
  | .config settings =>
      (.applied, { snapshot with
        config := snapshot.config.insert (ConfigSection.name settings) settings })
  | .moduleConfig settings =>
      (.applied, { snapshot with
        moduleConfig := snapshot.moduleConfig.insert (ModuleSection.name settings) settings })
  | .channel channel =>
      if snapshot.channels.length < maxChannels then
        (.applied, { snapshot with channels := snapshot.channels ++ [channel] })
      else (.ignored, snapshot)
  | .configComplete answered =>
      if answered = request ∧ snapshot.configComplete = false then
        (.candidateComplete, { snapshot with configComplete := true })
      else (.ignored, snapshot)
  | .logRecord _ | .other _ => (.ignored, snapshot)

end Snapshot

end RadioSnapshot
