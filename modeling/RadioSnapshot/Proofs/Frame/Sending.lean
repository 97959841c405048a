import RadioSnapshot.Proofs.Frame.Traffic
import RadioSnapshot.Proofs.Link.Writing

/-!
# What is sent is what is received

A host sends wake sequences and frames through an outlet that may take them in
pieces, be interrupted and fail. Each call puts the beginning of its own bytes on the
link, whatever calls before it did and left in the buffer. As long as only payloads too
large for a frame are refused, a deframer at the other end reads what was sent.
-/

namespace RadioSnapshot

open Deframer (Event)

/-- Something that a host sends. -/
inductive Transmission where
  | wake
  | send (payload : List UInt8)
  deriving DecidableEq, Repr

namespace Transmission

/-- Send it through a sink. -/
def perform {κ : Type} (sink : ByteSink κ) :
    Transmission → Transmitter κ → Except FrameError Unit × Transmitter κ
  | .wake, transmitter => transmitter.wake sink
  | .send payload, transmitter => transmitter.send sink payload

/-- Its bytes on the wire: the second magic byte over and over, or the two magic bytes, the
length in two bytes, of which the more significant is the first, and the payload. -/
def wire : Transmission → List UInt8
  | .wake => List.replicate 32 0xC3
  | .send payload =>
      0x94 :: 0xC3 :: UInt8.ofNat (payload.length / 256) :: UInt8.ofNat (payload.length % 256) ::
        payload

/-- What a deframer gives out for it: every byte by itself, or a frame. -/
def events : Transmission → List Event
  | .wake => List.replicate 32 (.stray [0xC3])
  | .send payload => [.frame ⟨payload⟩]

/-- The payload that it carries. -/
def payload? : Transmission → Option (List UInt8)
  | .wake => none
  | .send payload => some payload

/-- A payload that is too large for a frame. -/
def IsOversized : Transmission → Prop
  | .wake => False
  | .send payload => 512 < payload.length

instance : DecidablePred IsOversized
  | .wake => .isFalse id
  | .send payload => inferInstanceAs (Decidable (512 < payload.length))

/-! ## As traffic -/

/-- The traffic that it is. -/
def segment : Transmission → Segment
  | .wake => .text Frame.wakeSequence
  | .send payload => .frame payload

theorem wire_segment (transmission : Transmission) :
    transmission.segment.wire = transmission.wire := by
  cases transmission with
  | wake => rfl
  | send payload =>
      have low : UInt8.ofNat payload.length = UInt8.ofNat (payload.length % 256) := by
        rw [← UInt8.toNat_inj]
        simp
      simp only [segment, Segment.wire, Frame.wire, Frame.header, Frame.lengthBytes, wire, low]
      rfl

theorem events_segment (transmission : Transmission) :
    transmission.segment.events = transmission.events := by
  cases transmission <;> rfl

theorem clear_segment {transmission : Transmission} (fits : ¬transmission.IsOversized) :
    transmission.segment.Clear 512 := by
  cases transmission with
  | wake => simp [segment, Segment.Clear, Frame.wakeSequence, Frame.firstMagic, Frame.secondMagic]
  | send payload =>
      rw [segment, Segment.Clear, Frame.maxPayload, Nat.min_self]
      exact Nat.le_of_not_lt fits

theorem payload?_segment (transmission : Transmission) :
    transmission.segment.payload? = transmission.payload? := by
  cases transmission <;> rfl

/-- The stray bytes of a deframer's events are those of the wake sequences. -/
theorem strays_events (transmissions : List Transmission) :
    Event.strays (transmissions.flatMap events) =
      List.replicate (32 * transmissions.count .wake) 0xC3 := by
  induction transmissions with
  | nil => rfl
  | cons transmission transmissions ih =>
      rw [Event.strays] at ih ⊢
      rw [List.flatMap_cons, List.flatMap_append, ih]
      cases transmission with
      | wake =>
          have one : (events .wake).flatMap Event.strayBytes = List.replicate 32 0xC3 := by decide
          rw [one, List.count_cons_self, Nat.mul_add_one, Nat.add_comm,
            List.replicate_append_replicate]
      | send payload =>
          rw [List.count_cons_of_ne (by simp)]
          rfl

/-! ## One call -/

/-- What one call takes of an outlet: its result and the bytes that the outlet took. -/
structure Entry where
  transmission : Transmission
  result : Except FrameError Unit
  accepted : List UInt8

/-- Send one thing after the other, whatever comes of it. -/
def log : List Transmission → Transmitter Outlet → List Entry × Transmitter Outlet
  | [], transmitter => ([], transmitter)
  | transmission :: rest, transmitter =>
      let (result, next) := transmission.perform .outlet transmitter
      let (entries, last) := log rest next
      (⟨transmission, result, next.link.written.drop transmitter.link.written.length⟩ :: entries,
        last)

/-- What was sent by the calls that succeeded. -/
def succeeded (entries : List Entry) : List Transmission :=
  (entries.filter fun entry => entry.result.isOk).map Entry.transmission

/-- What can be said of a call from its entry alone. -/
structure Entry.Sound (entry : Entry) : Prop where
  begins_wire : entry.accepted <+: entry.transmission.wire
  accepted_of_ok : entry.result = .ok () → entry.accepted = entry.transmission.wire
  of_oversized : entry.transmission.IsOversized →
    entry.accepted = [] ∧ entry.result.isOk = false

theorem write_written (bytes : List UInt8) (transmitter : Transmitter Outlet) :
    ∃ taken : List UInt8,
      (transmitter.write .outlet bytes).2.link.written = transmitter.link.written ++ taken ∧
      taken <+: bytes ∧ ((transmitter.write .outlet bytes).1 = .ok () → taken = bytes) := by
  obtain ⟨taken, written, isPrefix, whole⟩ := transmitter.link.exists_taken bytes
  refine ⟨taken, ?_, isPrefix, ?_⟩
  · simp only [Transmitter.write, ByteSink.outlet]
    split <;> simp_all
  · intro succeeded
    apply whole
    simp only [Transmitter.write, ByteSink.outlet] at succeeded
    split at succeeded <;> simp_all

variable {κ : Type}

/-- A payload too large for a frame is refused before the link is touched. -/
theorem perform_oversized {payload : List UInt8} (large : 512 < payload.length)
    (sink : ByteSink κ) (transmitter : Transmitter κ) :
    (send payload).perform sink transmitter =
      (.error (.payloadTooLarge payload.length 512), transmitter.clear) := by
  simp only [perform, Transmitter.send, Frame.encode_of_lt large]
  rfl

/-- A payload that fits is written in its frame, as the buffer is cleared before. -/
theorem perform_send {payload : List UInt8} (small : payload.length ≤ 512) (sink : ByteSink κ)
    (transmitter : Transmitter κ) :
    (send payload).perform sink transmitter =
      { transmitter with buffer := (send payload).wire }.write sink (send payload).wire := by
  have encoded := Frame.encode_of_le small transmitter.clear.buffer
  have whole : transmitter.clear.buffer ++ (Frame.mk payload).wire = (send payload).wire :=
    wire_segment (send payload)
  rw [whole] at encoded
  simp only [perform, Transmitter.send, encoded]
  rfl

/-- What the buffer holds makes no difference to a call. -/
theorem perform_buffer (transmission : Transmission) (sink : ByteSink κ) (link : κ)
    (buffer other : List UInt8) :
    let near := transmission.perform sink ⟨link, buffer⟩
    let far := transmission.perform sink ⟨link, other⟩
    near.1 = far.1 ∧ near.2.link = far.2.link := by
  cases transmission with
  | wake =>
      simp only [perform, Transmitter.wake, Transmitter.write]
      split <;> exact ⟨rfl, rfl⟩
  | send payload =>
      by_cases large : 512 < payload.length
      · simp only [perform_oversized large, Transmitter.clear, and_self]
      · simp only [perform_send (Nat.le_of_not_lt large), and_self]

/-- A call adds to what the outlet took before, and soundly so. -/
theorem perform_sound (transmission : Transmission) (transmitter : Transmitter Outlet) :
    ∃ taken : List UInt8,
      (transmission.perform .outlet transmitter).2.link.written =
        transmitter.link.written ++ taken ∧
      Entry.Sound ⟨transmission, (transmission.perform .outlet transmitter).1, taken⟩ := by
  cases transmission with
  | wake =>
      obtain ⟨taken, written, isPrefix, whole⟩ := write_written Frame.wakeSequence transmitter
      exact ⟨taken, written, isPrefix, whole, False.elim⟩
  | send payload =>
      by_cases large : 512 < payload.length
      · rw [perform_oversized large]
        refine ⟨[], by simp [Transmitter.clear], List.nil_prefix, fun succeeded => ?_,
          fun _ => ⟨rfl, rfl⟩⟩
        cases succeeded
      · rw [perform_send (Nat.le_of_not_lt large)]
        obtain ⟨taken, written, isPrefix, whole⟩ := write_written (send payload).wire
          { transmitter with buffer := (send payload).wire }
        exact ⟨taken, written, isPrefix, whole, fun oversized => absurd oversized large⟩

/-! ## Many calls -/

theorem log_transmissions (calls : List Transmission) (transmitter : Transmitter Outlet) :
    (log calls transmitter).1.map Entry.transmission = calls := by
  induction calls generalizing transmitter with
  | nil => rfl
  | cons call calls ih => simp only [log, List.map_cons, ih]

/-- The bytes that an outlet takes are those of the calls, in order. -/
theorem log_sound (calls : List Transmission) (transmitter : Transmitter Outlet) :
    (log calls transmitter).2.link.written =
        transmitter.link.written ++ (log calls transmitter).1.flatMap Entry.accepted ∧
      ∀ entry ∈ (log calls transmitter).1, entry.Sound := by
  induction calls generalizing transmitter with
  | nil => simp [log]
  | cons call calls ih =>
      obtain ⟨taken, written, sound⟩ := perform_sound call transmitter
      obtain ⟨others, othersSound⟩ := ih (call.perform .outlet transmitter).2
      have accepted : (call.perform .outlet transmitter).2.link.written.drop
          transmitter.link.written.length = taken := by
        rw [written, List.drop_left]
      simp only [log, accepted]
      constructor
      · rw [others, written, List.flatMap_cons, List.append_assoc]
      · exact List.forall_mem_cons.mpr ⟨sound, othersSound⟩

/-- What calls that succeeded have sent is clear traffic. -/
theorem clear_of_mem_succeeded {entries : List Entry} (sound : ∀ entry ∈ entries, entry.Sound)
    {transmission : Transmission} (done : transmission ∈ succeeded entries) :
    transmission.segment.Clear 512 := by
  obtain ⟨entry, passed, rfl⟩ := List.mem_map.mp done
  obtain ⟨logged, isOk⟩ := List.mem_filter.mp passed
  apply clear_segment
  intro oversized
  rw [((sound entry logged).of_oversized oversized).2] at isOk
  cases isOk

/-- When calls are refused for their size alone, what the outlet took is what was sent by the
others. -/
theorem flatMap_accepted {entries : List Entry} (sound : ∀ entry ∈ entries, entry.Sound)
    (working : ∀ entry ∈ entries, ¬ entry.transmission.IsOversized → entry.result = .ok ()) :
    entries.flatMap Entry.accepted = (succeeded entries).flatMap wire := by
  induction entries with
  | nil => rfl
  | cons entry entries ih =>
      rw [List.forall_mem_cons] at sound working
      rw [List.flatMap_cons, ih sound.2 working.2]
      simp only [succeeded, List.filter_cons]
      by_cases oversized : entry.transmission.IsOversized
      · obtain ⟨nothing, refused⟩ := sound.1.of_oversized oversized
        rw [nothing, refused]
        rfl
      · have passed := working.1 oversized
        have isOk : entry.result.isOk = true := by rw [passed]; rfl
        rw [sound.1.accepted_of_ok passed, if_pos isOk]
        rfl

/-- A deframer gives out what clear transmissions carry. -/
theorem run_wire {done : List Transmission}
    (clear : ∀ transmission ∈ done, transmission.segment.Clear 512) :
    let received := Deframer.idle.run 512 (done.flatMap wire)
    Event.emitted received.1 = done.flatMap events ∧
      Event.frames received.1 = (done.filterMap payload?).map Frame.mk ∧
      Event.strays received.1 = List.replicate (32 * done.count .wake) 0xC3 ∧
      received.2 = .idle := by
  have clearSegments : ∀ segment ∈ done.map Transmission.segment, segment.Clear 512 :=
    List.forall_mem_map.mpr clear
  have wires : (done.map Transmission.segment).flatMap Segment.wire = done.flatMap wire := by
    simp only [List.flatMap_map, wire_segment]
  have allEvents : (done.map Transmission.segment).flatMap Segment.events =
      done.flatMap events := by
    simp only [List.flatMap_map, events_segment]
  have payloads : (done.map Transmission.segment).filterMap Segment.payload? =
      done.filterMap payload? := by
    rw [List.filterMap_map]
    congr 1
    exact funext payload?_segment
  obtain ⟨emitted, idle⟩ := Deframer.run_idle_segments clearSegments
  have frames := Deframer.frames_run_idle_segments clearSegments
  rw [wires] at emitted idle frames
  rw [allEvents] at emitted
  rw [payloads] at frames
  refine ⟨emitted, frames, ?_, idle⟩
  rw [← Event.strays_emitted, emitted, strays_events]

/-- What is sent is what is received.

Through an outlet with any scripts, and with anything in the buffer, every call puts the
beginning of its own bytes on the link, and all of them when it succeeds: those of the wake
sequence are 32 times the second magic byte, and those of a payload are its frame. What the
buffer holds makes no difference. A payload of more than 512 bytes is refused and leaves the
outlet as it is. When nothing else fails, a fresh deframer reads from the bytes on the link
exactly the payloads that were sent, in order, and the 32 bytes of every wake sequence one by
one, and holds nothing in the end. -/
theorem received_as_sent (writes : List WriteEvent) (flushes : List FlushEvent)
    (buffer : List UInt8) (calls : List Transmission) :
    let sending := log calls ⟨.ofScripts writes flushes, buffer⟩
    sending.1.map Entry.transmission = calls ∧
    sending.2.link.written = sending.1.flatMap Entry.accepted ∧
    (∀ entry ∈ sending.1, entry.accepted <+: entry.transmission.wire ∧
      (entry.result = .ok () → entry.accepted = entry.transmission.wire)) ∧
    (∀ (transmission : Transmission) (outlet : Outlet) (held other : List UInt8),
      let near := transmission.perform .outlet ⟨outlet, held⟩
      let far := transmission.perform .outlet ⟨outlet, other⟩
      near.1 = far.1 ∧ near.2.link = far.2.link) ∧
    (∀ payload : List UInt8, 512 < payload.length → ∀ transmitter : Transmitter Outlet,
      let sent := (send payload).perform .outlet transmitter
      sent.1 = .error (.payloadTooLarge payload.length 512) ∧
        sent.2.link = transmitter.link) ∧
    ((∀ entry ∈ sending.1, ¬ entry.transmission.IsOversized → entry.result = .ok ()) →
      let done := succeeded sending.1
      let received := Deframer.idle.run 512 sending.2.link.written
      Event.emitted received.1 = done.flatMap events ∧
      Event.frames received.1 = (done.filterMap payload?).map Frame.mk ∧
      Event.strays received.1 = List.replicate (32 * done.count .wake) 0xC3 ∧
      received.2 = .idle ∧ received.2.buffered = 0) := by
  intro sending
  obtain ⟨written, sound⟩ := log_sound calls ⟨.ofScripts writes flushes, buffer⟩
  refine ⟨log_transmissions calls _, written, ?_, ?_, ?_, ?_⟩
  · intro entry member
    exact ⟨(sound entry member).begins_wire, (sound entry member).accepted_of_ok⟩
  · intro transmission outlet held other
    exact perform_buffer transmission .outlet outlet held other
  · intro payload large transmitter
    rw [perform_oversized large]
    exact ⟨rfl, rfl⟩
  · intro working done received
    have wires : sending.2.link.written = done.flatMap wire :=
      written.trans (flatMap_accepted sound working)
    have read := run_wire fun _ member => clear_of_mem_succeeded sound member
    rw [← wires] at read
    obtain ⟨emitted, frames, strays, idle⟩ := read
    exact ⟨emitted, frames, strays, idle, by rw [idle]; rfl⟩

/-- A wake sequence taken in two pieces with an interruption between them, a frame that
holds magic bytes, a payload that is refused, and an empty frame, out of a buffer that was
used before. -/
theorem received_as_sent_in_pieces :
    let sending := log [.wake, .send [0x94, 0xC3], .send (List.replicate 513 0), .send []]
      ⟨.ofScripts [.accept 5, .failure ⟨.interrupted, none⟩]
        [.failure ⟨.interrupted, none⟩], [1, 2, 3]⟩
    (∀ entry ∈ sending.1, ¬ entry.transmission.IsOversized → entry.result = .ok ()) ∧
    512 < (List.replicate 513 (0 : UInt8)).length ∧
    sending.2.link.written = List.replicate 32 0xC3 ++
      [0x94, 0xC3, 0, 2, 0x94, 0xC3, 0x94, 0xC3, 0, 0] ∧
    Event.emitted (Deframer.idle.run 512 sending.2.link.written).1 =
      List.replicate 32 (.stray [0xC3]) ++ [.frame ⟨[0x94, 0xC3]⟩, .frame ⟨[]⟩] := by
  intro sending
  have working : ∀ entry ∈ sending.1, ¬ entry.transmission.IsOversized →
      entry.result = .ok () := by
    decide +kernel
  obtain ⟨_, _, _, _, _, received⟩ := received_as_sent
    [.accept 5, .failure ⟨.interrupted, none⟩] [.failure ⟨.interrupted, none⟩] [1, 2, 3]
    [.wake, .send [0x94, 0xC3], .send (List.replicate 513 0), .send []]
  refine ⟨working, by decide +kernel, by decide +kernel, ?_⟩
  rw [(received working).1]
  decide +kernel

end Transmission

end RadioSnapshot
