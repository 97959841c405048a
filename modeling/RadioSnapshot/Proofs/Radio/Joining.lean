import RadioSnapshot.Proofs.Radio.Envelope
import RadioSnapshot.Proofs.Schema.Joining
import RadioSnapshot.Radio.Message

/-!
# Envelopes one behind the other

A payload may hold the fields of more than one envelope. It is read as the later envelope
merged into the earlier one, on every level: what is set later counts, lists are joined, and
messages that are in both are merged. When the two carry different variants the payload has
the message of the last.
-/

namespace RadioSnapshot.Radio

open Schema Wire

/-- The message of an envelope is decided by its variant. -/
theorem Message.ofEnvelope_congr {envelope other : FromRadio}
    (same : envelope.variant = other.variant) : ofEnvelope envelope = ofEnvelope other := by
  rw [ofEnvelope, ofEnvelope, same]

theorem Message.decode_of_ok {payload : List UInt8} {envelope : FromRadio}
    (read : fromRadio.decode payload = .ok envelope) :
    Message.decode payload = ofEnvelope envelope := by
  rw [Message.decode, read]

namespace FromRadio

/-- An envelope without a variant leaves the earlier one. -/
theorem variant_merged_of_none (base : FromRadio) {later : FromRadio}
    (missing : later.variant = none) : variant (fromRadio.merged base later) = base.variant := by
  obtain ⟨number, variant?, _⟩ := later
  cases missing
  rfl

theorem variant_merged_of_some (base : FromRadio) {later : FromRadio} {present : Variant}
    (given : later.variant = some present) :
    variant (fromRadio.merged base later) =
      some (fromRadioVariants.merged base.variant present) := by
  obtain ⟨number, variant?, _⟩ := later
  cases given
  rfl

end FromRadio

/-- An envelope behind another one is read as the two merged, the later into the earlier,
whose negative zeros are lost. Behind any payload that can be read an envelope is merged into
what was read. The message stays that of the payload when the envelope has no variant, and
becomes that of the envelope when the payload had none or one of another kind. In every
choice, on whatever level, a member of another kind is replaced by the later one, and the
same member is merged. Lengths on the wire are below `Varint.bound`, and so is the length of
every buffer. -/
theorem joined_envelopes_merge {later : FromRadio}
    (small : (fromRadio.encode later).length < Varint.bound) :
    (∀ earlier : FromRadio, (fromRadio.encode earlier).length < Varint.bound →
      fromRadio.decode (fromRadio.encode earlier ++ fromRadio.encode later) =
        .ok (fromRadio.merged (fromRadio.withoutNegativeZeros earlier) later)) ∧
    (∀ (payload : List UInt8) (earlier : FromRadio), fromRadio.decode payload = .ok earlier →
      fromRadio.decode (payload ++ fromRadio.encode later) =
          .ok (fromRadio.merged earlier later) ∧
        (later.variant = none →
          Message.decode (payload ++ fromRadio.encode later) = Message.decode payload) ∧
        ∀ present ∈ later.variant,
          (∀ other ∈ earlier.variant,
            fromRadioVariants.place other ≠ fromRadioVariants.place present) →
          Message.decode (payload ++ fromRadio.encode later) =
            Message.decode (fromRadio.encode later)) ∧
    ∀ (members : Members) (first second : members.Choice),
      (members.place first ≠ members.place second ∧
        members.merged (some first) second = members.withoutNegativeZeros second) ∨
      ∃ (held : Held) (slot : members.Slot held) (value other : held.Value),
        first = slot.choose value ∧ second = slot.choose other ∧
          members.merged (some first) second = slot.choose (held.merged value other) := by
  have readable : fromRadio.isReadable maxDepth = true :=
    isReadable_envelope List.mem_cons_self
  have readLater := MessageType.decode_encode readable small
  refine ⟨?_, ?_, ?_⟩
  · intro earlier smallEarlier
    exact MessageType.decode_append_encode readable
      (MessageType.decode_encode readable smallEarlier) small
  · intro payload earlier accepted
    have read := MessageType.decode_append_encode readable accepted small
    refine ⟨read, ?_, ?_⟩
    · intro missing
      rw [Message.decode_of_ok read, Message.decode_of_ok accepted]
      exact Message.ofEnvelope_congr (FromRadio.variant_merged_of_none earlier missing)
    · intro present given otherKind
      rw [Message.decode_of_ok read, Message.decode_of_ok readLater]
      apply Message.ofEnvelope_congr
      rw [FromRadio.variant_merged_of_some earlier given, Members.merged_of_place_ne otherKind]
      exact (congrArg (Option.map fromRadioVariants.withoutNegativeZeros) given).symm
  · intro members first second
    by_cases same : members.place first = members.place second
    · obtain ⟨held, slot, value, other, rfl, rfl⟩ := Members.exists_slot_of_place_eq same
      exact .inr ⟨held, slot, value, other, rfl, rfl, Members.merged_choose slot value other⟩
    · refine .inl ⟨same, Members.merged_of_place_ne ?_⟩
      intro earlier member
      rw [← Option.some.inj member]
      exact same

/-- Node seven names its owner and was heard at -0.0. Behind it the owner gets a longer name
and the node a hop count of zero, and then a channel leaves nothing of the node but the
number of its envelope. -/
theorem joined_envelopes_merge_node :
    let owner (id longName : String) : User := (id, longName, "", [], 0, false, 0, [], ())
    let node (number : UInt32) (user : User) (level : Binary32) (hops : UInt32) :
        FromRadio.Variant := .nodeInfo (number, some user, level, 0, 0, false, some hops, ())
    let first : FromRadio := (1, some (node 7 (owner "!7" "") Binary32.negativeZero 3), ())
    let second : FromRadio := (0, some (node 0 (owner "" "Base") Binary32.negativeZero 0), ())
    let slot : Channel := (1, none, 2, ())
    let third : FromRadio := (0, some (FromRadio.Variant.channel slot), ())
    let named := fromRadio.encode first ++ fromRadio.encode second
    (fromRadio.encode first).length < Varint.bound ∧
      (fromRadio.encode second).length < Varint.bound ∧
      (fromRadio.encode third).length < Varint.bound ∧
      fromRadio.decode named = .ok (1, some (node 7 (owner "!7" "Base") ⟨0⟩ 0), ()) ∧
      fromRadio.decode (named ++ fromRadio.encode third) =
        .ok (1, some (FromRadio.Variant.channel slot), ()) ∧
      Message.decode (named ++ fromRadio.encode third) = .ok (.channel slot) := by
  intro owner node first second slot third named
  have small : (fromRadio.encode first).length < Varint.bound := by decide +kernel
  have smallSecond : (fromRadio.encode second).length < Varint.bound := by decide +kernel
  have smallThird : (fromRadio.encode third).length < Varint.bound := by decide +kernel
  have readNamed := (joined_envelopes_merge smallSecond).1 first small
  obtain ⟨read, _, replaced⟩ := (joined_envelopes_merge smallThird).2.1 named _ readNamed
  have carried : Message.decode (fromRadio.encode third) = .ok (.channel slot) := by
    rw [Message.decode_of_ok (MessageType.decode_encode
      (isReadable_envelope List.mem_cons_self) smallThird)]
    rfl
  refine ⟨small, smallSecond, smallThird, readNamed, read, ?_⟩
  rw [← carried]
  apply replaced (FromRadio.Variant.channel slot) rfl
  intro other member
  rw [← Option.some.inj member]
  decide

end RadioSnapshot.Radio
