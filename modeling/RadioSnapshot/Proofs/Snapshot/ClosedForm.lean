import Mathlib.Data.List.Induction
import RadioSnapshot.Proofs.Radio.Strand
import RadioSnapshot.Proofs.Schema.Variants
import RadioSnapshot.Proofs.Snapshot.NameTable
import RadioSnapshot.Snapshot.Merge

/-!
# Snapshots in closed form

Merging walks through the messages once. What comes of it can be read off the
list of messages: some parts of a snapshot are first values, some are last values,
and the identity of the radio decides which messages count as its own.
-/

namespace RadioSnapshot

open Radio

private theorem findSome?_filter_singleton {α β : Type} (keep : α → Bool) (read : α → Option β)
    (value : α) :
    ([value].filter keep).findSome? read = if keep value then read value else none := by
  cases kept : keep value <;> simp [kept]

private theorem getLast?_filterMap_concat {α β : Type} (read : α → Option β) (values : List α)
    (value : α) :
    ((values ++ [value]).filterMap read).getLast? =
      (read value).or (values.filterMap read).getLast? := by
  cases found : read value <;> simp [found]

/-- What a value gives is among the first so many when fewer come before it. -/
private theorem take_append_filterMap {α β : Type} (read : α → Option β) (values : List β)
    (value : α) (most : Nat) :
    (values ++ [value].filterMap read).take most =
      values.take most ++
        if (values.take most).length < most then (read value).toList else [] := by
  have given : [value].filterMap read = (read value).toList := by
    cases found : read value <;> simp [found]
  rw [given, List.take_append, List.length_take]
  by_cases space : values.length < most
  · have fits : (read value).toList.length ≤ most - values.length :=
      Nat.le_trans Option.length_toList_le (Nat.sub_pos_of_lt space)
    rw [if_pos (by omega), List.take_of_length_le fits]
  · rw [if_neg (by omega), Nat.sub_eq_zero_of_le (Nat.le_of_not_lt space), List.take_zero]

attribute [ext] Snapshot

namespace Snapshot

/-- The snapshot that messages make, one after the other. -/
def ofMessages (request : UInt32) (messages : List Message) : Snapshot :=
  messages.foldl (fun snapshot message => (snapshot.apply request message).2) .empty

theorem ofMessages_concat (request : UInt32) (messages : List Message) (message : Message) :
    ofMessages request (messages ++ [message]) =
      ((ofMessages request messages).apply request message).2 := by
  simp [ofMessages]

/-- An identity that is offered is taken where there is none, unless it is empty. -/
theorem offerIdentity_eq (identity : List UInt8) (snapshot : Snapshot) :
    snapshot.offerIdentity identity =
      { snapshot with
        deviceIdentity := snapshot.deviceIdentity.or (Option.guard (· ≠ []) identity) } := by
  obtain ⟨_, device⟩ := snapshot
  cases device <;> cases identity <;> rfl

/-- What a message does to a snapshot, said field by field. -/
def merged (request : UInt32) (message : Message) (snapshot : Snapshot) : Snapshot :=
  let number := snapshot.nodeNumber.or message.claimedNumber?
  let owner := if message.isLocalTo number then message.user? else none
  let address := if message.isLocalTo number then message.hardwareAddress? else none
  { nodeNumber := number
    deviceIdentity := snapshot.deviceIdentity.or address
    hardwareId := owner.elim snapshot.hardwareId User.id
    longName := owner.elim snapshot.longName User.longName
    shortName := owner.elim snapshot.shortName User.shortName
    metadata := message.metadata?.or snapshot.metadata
    config := message.settings?.elim snapshot.config fun settings =>
      snapshot.config.insert (ConfigSection.name settings) settings
    moduleConfig := message.moduleSettings?.elim snapshot.moduleConfig fun settings =>
      snapshot.moduleConfig.insert (ModuleSection.name settings) settings
    channels := snapshot.channels ++
      if snapshot.channels.length < maxChannels then message.channel?.toList else []
    configComplete := snapshot.configComplete || message.answers request }

/-- A radio that says who it is gives at most a number and an identity. -/
theorem merged_nodeIdentity (request : UInt32) (info : MyNodeInfo) (snapshot : Snapshot) :
    snapshot.merged request (.nodeIdentity info) =
      let number := snapshot.nodeNumber.or (Message.nodeIdentity info).claimedNumber?
      { snapshot with
        nodeNumber := number
        deviceIdentity := snapshot.deviceIdentity.or
          (if number = some info.nodeNumber then Option.guard (· ≠ []) info.deviceId
          else none) } := by
  simp [merged, Message.isLocalTo_nodeIdentity, Message.user?, Message.hardwareAddress?,
    Message.metadata?, Message.settings?, Message.moduleSettings?, Message.channel?,
    Message.answers]

/-- An entry of the node database gives at most an owner, with an identity. -/
theorem merged_nodeRecord (request : UInt32) (node : NodeInfo) (snapshot : Snapshot) :
    snapshot.merged request (.nodeRecord node) =
      let owner := if snapshot.nodeNumber = some node.number then node.user else none
      { snapshot with
        deviceIdentity := snapshot.deviceIdentity.or
          (owner.bind fun user => Option.guard (· ≠ []) user.hardwareAddress)
        hardwareId := owner.elim snapshot.hardwareId User.id
        longName := owner.elim snapshot.longName User.longName
        shortName := owner.elim snapshot.shortName User.shortName } := by
  by_cases own : snapshot.nodeNumber = some node.number
  · cases named : node.user <;>
      simp [merged, own, named, Message.isLocalTo_nodeRecord, Message.claimedNumber?,
        Message.user?, Message.hardwareAddress?, Message.metadata?, Message.settings?,
        Message.moduleSettings?, Message.channel?, Message.answers]
  · simp [merged, own, Message.isLocalTo_nodeRecord, Message.claimedNumber?,
      Message.metadata?, Message.settings?, Message.moduleSettings?, Message.channel?,
      Message.answers]

theorem merged_channel (request : UInt32) (slot : Channel) (snapshot : Snapshot) :
    snapshot.merged request (.channel slot) =
      { snapshot with
        channels := snapshot.channels ++
          if snapshot.channels.length < maxChannels then [slot] else [] } := by
  simp [merged, Message.isLocalTo, Message.isLocal, Message.claimedNumber?,
    Message.metadata?, Message.settings?, Message.moduleSettings?, Message.channel?,
    Message.answers]

theorem merged_configComplete (request answered : UInt32) (snapshot : Snapshot) :
    snapshot.merged request (.configComplete answered) =
      { snapshot with
        configComplete := snapshot.configComplete || answered == request } := by
  simp [merged, Message.isLocalTo, Message.isLocal, Message.claimedNumber?,
    Message.metadata?, Message.settings?, Message.moduleSettings?, Message.channel?,
    Message.answers]

theorem applyIdentity_snd (request : UInt32) (info : MyNodeInfo) {snapshot : Snapshot}
    (nonzero : snapshot.nodeNumber ≠ some 0) :
    (snapshot.applyIdentity info).2 = snapshot.merged request (.nodeIdentity info) := by
  rw [applyIdentity, merged_nodeIdentity]
  split
  next zero =>
    have unclaimed : (Message.nodeIdentity info).claimedNumber? = none := if_pos zero
    simp only [unclaimed, zero, Option.or_none, if_neg nonzero]
  next real =>
    have claimed : (Message.nodeIdentity info).claimedNumber? = some info.nodeNumber :=
      if_neg real
    obtain ⟨number?, _⟩ := snapshot
    cases number? with
    | none => simp [offerIdentity_eq, claimed]
    | some number =>
        by_cases same : number = info.nodeNumber
        · simp [offerIdentity_eq, same]
        · simp [same]

theorem applyRecord_snd (request : UInt32) (node : NodeInfo) (snapshot : Snapshot) :
    (snapshot.applyRecord node).2 = snapshot.merged request (.nodeRecord node) := by
  rw [applyRecord, merged_nodeRecord]
  split
  next own =>
    cases node.user with
    | none => simp
    | some user => simp [offerIdentity_eq]
  next other => simp

/-- Merging a message does to a snapshot that has no number zero what `merged` says. -/
theorem apply_snd (request : UInt32) (message : Message) {snapshot : Snapshot}
    (nonzero : snapshot.nodeNumber ≠ some 0) :
    (snapshot.apply request message).2 = snapshot.merged request message := by
  cases message with
  | nodeIdentity info => exact applyIdentity_snd request info nonzero
  | nodeRecord node => exact applyRecord_snd request node snapshot
  | channel slot =>
      rw [apply, merged_channel]
      split
      next space => rfl
      next full => simp
  | configComplete answered =>
      rw [apply, merged_configComplete]
      obtain ⟨_, _, _, _, _, _, _, _, _, complete⟩ := snapshot
      by_cases asked : answered = request
      · cases complete <;> simp [asked]
      · simp [asked]
  | _ =>
      simp [apply, merged, Message.isLocalTo, Message.isLocal, Message.claimedNumber?,
        Message.metadata?, Message.settings?, Message.moduleSettings?, Message.channel?,
        Message.answers]

/-- A table keyed by the names of sections has an entry for each section: settings have the
same name exactly if they are of the same section. -/
theorem configSection_name_eq_iff (settings other : ConfigSection) :
    ConfigSection.name settings = ConfigSection.name other ↔
      configSections.place settings = configSections.place other :=
  Schema.Members.nameOf_eq_iff (by decide) settings other

theorem moduleSection_name_eq_iff (settings other : ModuleSection) :
    ModuleSection.name settings = ModuleSection.name other ↔
      moduleSections.place settings = moduleSections.place other :=
  Schema.Members.nameOf_eq_iff (by decide) settings other

/-- What can be read off the messages that a snapshot was made of. -/
structure ClosedForm (request : UInt32) (messages : List Message) (snapshot : Snapshot) :
    Prop where
  nodeNumber : snapshot.nodeNumber = Message.radioNumber? messages
  /-- The first identifier of the radio that is not empty. -/
  deviceIdentity : snapshot.deviceIdentity =
    (Message.locals messages).findSome? Message.hardwareAddress?
  hardwareId : snapshot.hardwareId = (Message.owner? messages).elim "" User.id
  longName : snapshot.longName = (Message.owner? messages).elim "" User.longName
  shortName : snapshot.shortName = (Message.owner? messages).elim "" User.shortName
  metadata : snapshot.metadata = (messages.filterMap Message.metadata?).getLast?
  config : snapshot.config.Latest ConfigSection.name (messages.filterMap Message.settings?)
  moduleConfig : snapshot.moduleConfig.Latest ModuleSection.name
    (messages.filterMap Message.moduleSettings?)
  channels : snapshot.channels = (messages.filterMap Message.channel?).take maxChannels
  configComplete : snapshot.configComplete = true ↔ .configComplete request ∈ messages

theorem ClosedForm.empty (request : UInt32) : ClosedForm request [] .empty where
  nodeNumber := rfl
  deviceIdentity := rfl
  hardwareId := rfl
  longName := rfl
  shortName := rfl
  metadata := rfl
  config := .empty ConfigSection.name
  moduleConfig := .empty ModuleSection.name
  channels := rfl
  configComplete := by simp [Snapshot.empty]

/-- A message takes what is read off the messages before it to what is read off them
and it. -/
theorem ClosedForm.merged {request : UInt32} {messages : List Message} {snapshot : Snapshot}
    (form : ClosedForm request messages snapshot) (message : Message) :
    ClosedForm request (messages ++ [message]) (snapshot.merged request message) where
  nodeNumber := by
    rw [Message.radioNumber?_concat, ← form.nodeNumber]
    rfl
  deviceIdentity := by
    rw [Message.locals_concat, List.findSome?_append, findSome?_filter_singleton,
      ← form.deviceIdentity, ← form.nodeNumber]
    rfl
  hardwareId := by
    rw [Message.owner?_concat_elim, ← form.nodeNumber, ← form.hardwareId]
    rfl
  longName := by
    rw [Message.owner?_concat_elim, ← form.nodeNumber, ← form.longName]
    rfl
  shortName := by
    rw [Message.owner?_concat_elim, ← form.nodeNumber, ← form.shortName]
    rfl
  metadata := by
    rw [getLast?_filterMap_concat, ← form.metadata]
    rfl
  config := by
    cases carried : message.settings? with
    | none => simpa [Snapshot.merged, carried] using form.config
    | some settings => simpa [Snapshot.merged, carried] using form.config.insert settings
  moduleConfig := by
    cases carried : message.moduleSettings? with
    | none => simpa [Snapshot.merged, carried] using form.moduleConfig
    | some settings => simpa [Snapshot.merged, carried] using form.moduleConfig.insert settings
  channels := by
    rw [List.filterMap_append, take_append_filterMap, ← form.channels]
    rfl
  configComplete := by
    rw [List.mem_append, List.mem_singleton, ← form.configComplete, ← Message.answers_eq_true,
      ← Bool.or_eq_true]
    rfl

/-- Further messages take what is read off those before them to what is read off all. -/
theorem ClosedForm.append {request : UInt32} {messages : List Message} {snapshot : Snapshot}
    (form : ClosedForm request messages snapshot) (more : List Message) :
    ClosedForm request (messages ++ more)
      (more.foldl (fun snapshot message => (snapshot.apply request message).2) snapshot) := by
  induction more generalizing messages snapshot with
  | nil =>
      rw [List.append_nil]
      exact form
  | cons message more ih =>
      have nonzero : snapshot.nodeNumber ≠ some 0 := by
        rw [form.nodeNumber]
        exact Message.radioNumber?_ne_zero messages
      rw [List.append_cons, List.foldl_cons, apply_snd request message nonzero]
      exact ih (form.merged message)

theorem ClosedForm.ofMessages (request : UInt32) (messages : List Message) :
    ClosedForm request messages (ofMessages request messages) :=
  (ClosedForm.empty request).append messages

/-- Snapshots that are read off the same strands are the same. -/
theorem ClosedForm.eq_of_strand_eq {request : UInt32} {messages others : List Message}
    {snapshot other : Snapshot} (form : ClosedForm request messages snapshot)
    (otherForm : ClosedForm request others other)
    (same : ∀ topic, Message.strand request topic messages =
      Message.strand request topic others) : snapshot = other := by
  have number : Message.radioNumber? messages = Message.radioNumber? others := by
    have claimed := (Message.reads_claimedNumber? request).filterMap_eq (same .owner)
    rw [Message.radioNumber?, Message.radioNumber?, ← List.head?_filterMap, claimed,
      List.head?_filterMap]
  have locals : Message.locals messages = Message.locals others := by
    rw [← Message.locals_strand request messages, same, Message.locals_strand]
  have owner : Message.owner? messages = Message.owner? others := by
    rw [Message.owner?, Message.owner?, locals]
  have metadata : messages.filterMap Message.metadata? = others.filterMap Message.metadata? :=
    (Message.reads_metadata? request).filterMap_eq (same .metadata)
  have channels : messages.filterMap Message.channel? = others.filterMap Message.channel? :=
    (Message.reads_channel? request).filterMap_eq (same .channel)
  have config : snapshot.config = other.config := by
    apply form.config.eq otherForm.config
    intro name
    rw [List.filter_filterMap, List.filter_filterMap]
    exact (Message.reads_settings? request name).filterMap_eq (same (.config name))
  have moduleConfig : snapshot.moduleConfig = other.moduleConfig := by
    apply form.moduleConfig.eq otherForm.moduleConfig
    intro name
    rw [List.filter_filterMap, List.filter_filterMap]
    exact (Message.reads_moduleSettings? request name).filterMap_eq (same (.moduleConfig name))
  have complete : snapshot.configComplete = other.configComplete := by
    rw [Bool.eq_iff_iff, form.configComplete, otherForm.configComplete,
      ← Message.mem_strand_completion, same, Message.mem_strand_completion]
  apply Snapshot.ext
  case nodeNumber => rw [form.nodeNumber, otherForm.nodeNumber, number]
  case deviceIdentity => rw [form.deviceIdentity, otherForm.deviceIdentity, locals]
  case hardwareId => rw [form.hardwareId, otherForm.hardwareId, owner]
  case longName => rw [form.longName, otherForm.longName, owner]
  case shortName => rw [form.shortName, otherForm.shortName, owner]
  case metadata => rw [form.metadata, otherForm.metadata, metadata]
  case config => exact config
  case moduleConfig => exact moduleConfig
  case channels => rw [form.channels, otherForm.channels, channels]
  case configComplete => exact complete

end Snapshot

end RadioSnapshot
