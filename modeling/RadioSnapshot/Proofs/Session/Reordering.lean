import RadioSnapshot.Proofs.Session.Gathering

/-!
# Frames in another order

What a collector makes of frames is decided, topic by topic, by the messages that count.
Frames with messages on different topics may change places, and frames that carry nothing
that counts may stand anywhere.
-/

namespace RadioSnapshot

open Radio

variable {τ τ' : Type}

namespace Radio.Codec

/-- A frame counts when it carries a message that does. -/
def counts (codec : Codec) (request : UInt32) (number? : Option UInt32) (frame : Frame) : Bool :=
  match codec.decode frame.payload with
  | .ok message => message.counts request number?
  | .error _ => false

/-- The messages of the frames that count are the messages that count. -/
theorem messages_filter_counts (codec : Codec) (request : UInt32) (frames : List Frame) :
    codec.messages
        (frames.filter (codec.counts request (Message.radioNumber? (codec.messages frames)))) =
      Message.counting request (codec.messages frames) := by
  rw [messages, List.filterMap_filter, Message.counting]
  generalize Message.radioNumber? (codec.messages frames) = number?
  rw [messages, List.filter_filterMap]
  congr 1
  funext frame
  cases decoded : codec.decode frame.payload with
  | error => simp [counts, decoded, Except.toOption]
  | ok message => simp [counts, decoded, Except.toOption, Option.filter]

/-- Frames with messages on different topics may change places. -/
theorem strand_messages_swap (codec : Codec) (request : UInt32) (topic : Message.Topic)
    (front back : List Frame) {one other : Frame}
    (differ : ∀ message message', codec.decode one.payload = .ok message →
      codec.decode other.payload = .ok message' → message.topic? ≠ message'.topic?) :
    Message.strand request topic (codec.messages (front ++ [one, other] ++ back)) =
      Message.strand request topic (codec.messages (front ++ [other, one] ++ back)) := by
  simp only [messages, List.filterMap_append]
  cases decoded : codec.decode one.payload with
  | error => simp [decoded, Except.toOption, List.filterMap_cons]
  | ok message =>
      cases decoded' : codec.decode other.payload with
      | error => simp [decoded', Except.toOption, List.filterMap_cons]
      | ok message' =>
          simp only [List.filterMap_cons, List.filterMap_nil, decoded, decoded', Except.toOption]
          exact Message.strand_swap request topic _ _ (differ message message' decoded decoded')

end Radio.Codec

namespace Collector

/-- Frames with the same strands of messages make the same snapshot. -/
theorem ofMessages_eq_of_strand_eq {codec : Codec} {request : UInt32} {first second : List Frame}
    (same : ∀ topic, Message.strand request topic (codec.messages first) =
      Message.strand request topic (codec.messages second)) :
    Snapshot.ofMessages request (codec.messages first) =
      .ofMessages request (codec.messages second) :=
  (Snapshot.ClosedForm.ofMessages request (codec.messages first)).eq_of_strand_eq
    (.ofMessages request (codec.messages second)) same

/-- The order of frames matters only inside each topic, and frames that do not count do not
matter at all.

Frames with the same strands make the same snapshot, resolved or not, whatever the consoles
do. So frames with messages on different topics may change places, and leaving out all
frames that do not count, or putting them in anywhere, changes nothing. -/
theorem snapshot_decided_by_strands (codec : Codec) (request : UInt32) (sink : LineSink τ)
    (sink' : LineSink τ') (console : τ) (console' : τ') :
    (∀ first second : List Frame,
      (∀ topic, Message.strand request topic (codec.messages first) =
        Message.strand request topic (codec.messages second)) →
      let near := (new request).receiveAll codec sink first console
      let far := (new request).receiveAll codec sink' second console'
      near.1.snapshot = far.1.snapshot ∧
        near.1.snapshot.isResolved = far.1.snapshot.isResolved) ∧
    (∀ (front back : List Frame) (one other : Frame),
      (∀ message message', codec.decode one.payload = .ok message →
        codec.decode other.payload = .ok message' → message.topic? ≠ message'.topic?) →
      ((new request).receiveAll codec sink (front ++ [one, other] ++ back) console).1.snapshot =
        ((new request).receiveAll codec sink' (front ++ [other, one] ++ back)
          console').1.snapshot) ∧
    (∀ frames : List Frame,
      let number? := Message.radioNumber? (codec.messages frames)
      ((new request).receiveAll codec sink (frames.filter (codec.counts request number?))
          console).1.snapshot =
        ((new request).receiveAll codec sink' frames console').1.snapshot) := by
  simp only [receiveAll_new]
  refine ⟨?_, ?_, ?_⟩
  · intro first second same
    have snapshots := ofMessages_eq_of_strand_eq same
    exact ⟨snapshots, congrArg Snapshot.isResolved snapshots⟩
  · intro front back one other differ
    apply ofMessages_eq_of_strand_eq
    intro topic
    exact codec.strand_messages_swap request topic front back differ
  · intro frames
    apply ofMessages_eq_of_strand_eq
    intro topic
    rw [codec.messages_filter_counts, Message.strand_counting]

/-- The owner of node seven. -/
def ownRecord : Frame := ⟨[0x22, 7, 8, 7, 0x12, 3, 0x0A, 1, 33]⟩

def channelSlot : Frame := ⟨[0x52, 2, 8, 1]⟩

/-- Node seven names itself, its owner and a channel, and completes. -/
def plainTraffic : List Frame :=
  [⟨[0x1A, 2, 8, 7]⟩] ++ [ownRecord, channelSlot] ++ [⟨[0x38, 0x40]⟩]

/-- The same in another order, among a frame without a message and a record of node nine. -/
def noisyTraffic : List Frame :=
  [⟨[0x38, 0x40]⟩, ⟨[0xFF]⟩, ⟨[0x22, 7, 8, 9, 0x12, 3, 0x0A, 1, 33]⟩, channelSlot,
    ⟨[0x1A, 2, 8, 7]⟩, ownRecord]

/-- The two make the same snapshot, and so does the first with the record and the channel in
each other's place. -/
theorem snapshot_decided_by_strands_noisy :
    (∀ topic, Message.strand 64 topic (Codec.envelope.messages plainTraffic) =
      Message.strand 64 topic (Codec.envelope.messages noisyTraffic)) ∧
    ((new 64).receiveAll .envelope .collect plainTraffic []).1.snapshot =
      ((new 64).receiveAll .envelope .discard noisyTraffic []).1.snapshot ∧
    ((new 64).receiveAll .envelope .discard noisyTraffic []).1.snapshot.isResolved = true ∧
    ((new 64).receiveAll .envelope .collect plainTraffic []).1.snapshot =
      ((new 64).receiveAll .envelope .discard
        ([⟨[0x1A, 2, 8, 7]⟩] ++ [channelSlot, ownRecord] ++ [⟨[0x38, 0x40]⟩]) []).1.snapshot := by
  obtain ⟨decided, swapped, _⟩ :=
    snapshot_decided_by_strands .envelope 64 .collect .discard [] []
  have same : ∀ topic, Message.strand 64 topic (Codec.envelope.messages plainTraffic) =
      Message.strand 64 topic (Codec.envelope.messages noisyTraffic) := by
    intro topic
    cases topic <;> rfl
  have differ : ∀ message message', Codec.envelope.decode ownRecord.payload = .ok message →
      Codec.envelope.decode channelSlot.payload = .ok message' →
      message.topic? ≠ message'.topic? := by
    intro message message' carried carried'
    cases carried
    cases carried'
    decide
  obtain ⟨snapshots, resolved⟩ := decided plainTraffic noisyTraffic same
  exact ⟨same, snapshots, resolved.symm.trans (by decide +kernel), swapped _ _ _ _ differ⟩

end Collector

end RadioSnapshot
