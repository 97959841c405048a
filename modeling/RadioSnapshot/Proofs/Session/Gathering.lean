import RadioSnapshot.Proofs.Frame.Arrival
import RadioSnapshot.Proofs.Snapshot.ClosedForm
import RadioSnapshot.Session.Collector

/-!
# What frames add up to

A collector that receives frames one by one gathers what can be said of all of them at
once: the snapshot of their messages, and how many of them say something. Some number
of frames is the least that resolves the snapshot, if there is one.
-/

namespace RadioSnapshot

open Radio

variable {τ : Type}

namespace Radio.Codec

/-- The messages that frames carry, where they carry one. -/
def messages (codec : Codec) (frames : List Frame) : List Message :=
  frames.filterMap fun frame => (codec.decode frame.payload).toOption

/-- The number of frames that carry no message. -/
def failures (codec : Codec) (frames : List Frame) : Nat :=
  frames.countP fun frame => !(codec.decode frame.payload).isOk

/-- The line that a frame is shown as, if it carries a log record. -/
def logLine? (codec : Codec) (frame : Frame) : Option String :=
  match codec.decode frame.payload with
  | .ok (.logRecord record) => some record.line
  | _ => none

/-- The snapshot that the messages in these frames make is resolved. -/
def resolves (codec : Codec) (frames : List Frame) : Bool :=
  (Snapshot.ofMessages configRequestId (codec.messages frames)).isResolved

/-- The least number of frames that resolve the snapshot. -/
def firstResolved? (codec : Codec) (frames : List Frame) : Option Nat :=
  (List.range (frames.length + 1)).find? fun count => codec.resolves (frames.take count)

variable {codec : Codec} {frames : List Frame}

theorem firstResolved?_eq_some {count : Nat} :
    codec.firstResolved? frames = some count ↔
      codec.resolves (frames.take count) = true ∧ count ≤ frames.length ∧
        ∀ fewer < count, codec.resolves (frames.take fewer) = false := by
  rw [firstResolved?, List.find?_range_eq_some, List.mem_range, Nat.lt_succ_iff]
  simp only [Bool.not_eq_true']

theorem firstResolved?_eq_none :
    codec.firstResolved? frames = none ↔
      ∀ count ≤ frames.length, codec.resolves (frames.take count) = false := by
  rw [firstResolved?, List.find?_range_eq_none]
  simp only [Nat.lt_succ_iff, Bool.not_eq_true']

theorem firstResolved?_nil (codec : Codec) : codec.firstResolved? [] = none := rfl

/-- Frames behind those that resolve the snapshot do not matter. -/
theorem firstResolved?_append {count : Nat}
    (resolved : codec.firstResolved? frames = some count) (more : List Frame) :
    codec.firstResolved? (frames ++ more) = some count := by
  obtain ⟨resolves, within, least⟩ := firstResolved?_eq_some.mp resolved
  apply firstResolved?_eq_some.mpr
  refine ⟨?_, ?_, ?_⟩
  · rw [List.take_append_of_le_length within]
    exact resolves
  · rw [List.length_append]
    exact Nat.le_add_right_of_le within
  · intro fewer less
    rw [List.take_append_of_le_length (Nat.le_trans (Nat.le_of_lt less) within)]
    exact least fewer less

/-- One more frame resolves the snapshot or leaves it unresolved. -/
theorem firstResolved?_concat (unresolved : codec.firstResolved? frames = none)
    (frame : Frame) :
    codec.firstResolved? (frames ++ [frame]) =
      if codec.resolves (frames ++ [frame]) then some (frames.length + 1) else none := by
  have before := firstResolved?_eq_none.mp unresolved
  have whole : (frames ++ [frame]).take (frames.length + 1) = frames ++ [frame] :=
    List.take_of_length_le (Nat.le_of_eq List.length_append)
  have short : ∀ count ≤ frames.length,
      codec.resolves ((frames ++ [frame]).take count) = false := by
    intro count within
    rw [List.take_append_of_le_length within]
    exact before count within
  split
  next resolved =>
    apply firstResolved?_eq_some.mpr
    refine ⟨?_, ?_, ?_⟩
    · rw [whole]
      exact resolved
    · simp
    · intro fewer less
      exact short fewer (Nat.le_of_lt_succ less)
  next unresolvedStill =>
    apply firstResolved?_eq_none.mpr
    intro count within
    rw [List.length_append, List.length_singleton] at within
    rcases Nat.le_succ_iff.mp within with less | rfl
    · exact short count less
    · rw [whole]
      exact Bool.eq_false_iff.mpr unresolvedStill

end Radio.Codec

namespace Snapshot

/-- The number of messages that are merged into a snapshot without any effect. Log
records are not merged. -/
def ignored (request : UInt32) : List Message → Snapshot → Nat
  | [], _ => 0
  | .logRecord _ :: rest, snapshot => ignored request rest snapshot
  | message :: rest, snapshot =>
      let (effect, snapshot) := snapshot.apply request message
      ignored request rest snapshot + if effect = .ignored then 1 else 0

theorem ignored_append (request : UInt32) (first second : List Message)
    (snapshot : Snapshot) :
    ignored request (first ++ second) snapshot =
      ignored request first snapshot + ignored request second
        (first.foldl (fun snapshot message => (snapshot.apply request message).2) snapshot) := by
  induction first generalizing snapshot with
  | nil => simp [ignored]
  | cons message first ih =>
      cases message <;> simp only [List.cons_append, ignored, List.foldl_cons, ih] <;>
        first | rfl | omega

theorem ignored_concat (request : UInt32) (messages : List Message) (message : Message) :
    ignored request (messages ++ [message]) .empty =
      ignored request messages .empty +
        ignored request [message] (ofMessages request messages) :=
  ignored_append request messages [message] .empty

end Snapshot

/-- What a collector has gathered from frames, with so many lines counted. -/
def Collector.ofFrames (codec : Codec) (request : UInt32) (frames : List Frame) (lines : Nat) :
    Collector where
  request := request
  snapshot := .ofMessages request (codec.messages frames)
  frames := frames.length
  decodeFailures := codec.failures frames
  ignoredMessages := Snapshot.ignored request (codec.messages frames) .empty
  consoleLines := lines

/-- One line more. -/
theorem Collector.forward_ofFrames (codec : Codec) (sink : LineSink τ) (request : UInt32)
    (frames : List Frame) (lines : Nat) (line : String) (console : τ) :
    (ofFrames codec request frames lines).forward sink line console =
      let offered := sink.offerAll [line] console
      (ofFrames codec request frames (lines + offered.1), offered.2) := by
  simp only [forward, ofFrames, LineSink.offerAll]
  split <;> rfl

/-- Receiving one frame more. -/
theorem Collector.receive_ofFrames (codec : Codec) (sink : LineSink τ) (request : UInt32)
    (frames : List Frame) (lines : Nat) (frame : Frame) (console : τ) :
    (ofFrames codec request frames lines).receive codec sink frame console =
      let offered := sink.offerAll (codec.logLine? frame).toList console
      (ofFrames codec request (frames ++ [frame]) (lines + offered.1), offered.2) := by
  have failures : codec.failures (frames ++ [frame]) =
      codec.failures frames + codec.failures [frame] := List.countP_append
  have messages : codec.messages (frames ++ [frame]) =
      codec.messages frames ++ codec.messages [frame] := List.filterMap_append
  simp only [Collector.receive, ofFrames, failures, messages, List.length_append,
    List.length_singleton]
  rcases decoded : codec.decode frame.payload with error | message
  · have nothing : codec.messages [frame] = [] := by
      simp [Codec.messages, decoded, Except.toOption]
    have one : codec.failures [frame] = 1 := by
      simp [Codec.failures, decoded, Except.isOk, Except.toBool]
    simp [nothing, one, Codec.logLine?, decoded, LineSink.offerAll]
  · have single : codec.messages [frame] = [message] := by
      simp [Codec.messages, decoded, Except.toOption]
    have decodes : codec.failures [frame] = 0 := by
      simp [Codec.failures, decoded, Except.isOk, Except.toBool]
    rw [single, decodes, Snapshot.ofMessages_concat, Snapshot.ignored_concat]
    cases message with
    | logRecord record =>
        simp only [Codec.logLine?, decoded, forward, Option.toList_some, LineSink.offerAll,
          Snapshot.ignored, Snapshot.apply]
        split <;> rfl
    | _ =>
        simp only [Codec.logLine?, decoded, Collector.merge, Snapshot.ignored, Nat.zero_add]
        split <;> rfl

/-- The collector and the console once the lines that were counted on their way to the
console, past the collector, have been added to those that it counted itself. -/
def Collector.settle (collector : Collector) (counted : Counted τ) : Collector × τ :=
  (collector.countLines counted.taken, counted.console)

/-- A line counted on its way to the console is, in the end, one that the collector forwards. -/
theorem Collector.settle_offer (sink : LineSink τ) (line : String) (collector : Collector)
    (counted : Counted τ) :
    collector.settle (sink.counted.offer line counted).2 =
      (collector.settle counted).1.forward sink line (collector.settle counted).2 := by
  rcases answer : sink.offer line counted.console with ⟨_ | _, console⟩ <;>
    simp [settle, countLines, forward, LineSink.counted, answer, Nat.add_assoc]

/-- A line that the collector forwards past the count is, in the end, one that it forwards. -/
theorem Collector.settle_forward (sink : LineSink τ) (line : String) (collector : Collector)
    (counted : Counted τ) :
    let forwarded := collector.forward sink.uncounted line counted
    forwarded.1.settle forwarded.2 =
      (collector.settle counted).1.forward sink line (collector.settle counted).2 := by
  rcases answer : sink.offer line counted.console with ⟨_ | _, console⟩ <;>
    simp [settle, countLines, forward, LineSink.uncounted, answer, Nat.add_right_comm]

theorem Collector.settle_receive (codec : Codec) (sink : LineSink τ) (frame : Frame)
    (collector : Collector) (counted : Counted τ) :
    let received := collector.receive codec sink.uncounted frame counted
    received.1.settle received.2 =
      (collector.settle counted).1.receive codec sink frame (collector.settle counted).2 := by
  simp only [receive]
  rcases codec.decode frame.payload with error | message
  · rfl
  · cases message with
    | logRecord record => exact settle_forward sink record.line _ counted
    | _ => rfl

/-- Take in frames one by one, whether they resolve the snapshot on the way or not. -/
def Collector.receiveAll (codec : Codec) (sink : LineSink τ) :
    List Frame → Collector → τ → Collector × τ
  | [], collector, console => (collector, console)
  | frame :: rest, collector, console =>
      let (collector, console) := collector.receive codec sink frame console
      receiveAll codec sink rest collector console

/-- Receiving any number of frames more. -/
theorem Collector.receiveAll_ofFrames (codec : Codec) (sink : LineSink τ) (request : UInt32)
    (seen frames : List Frame) (lines : Nat) (console : τ) :
    (ofFrames codec request seen lines).receiveAll codec sink frames console =
      let offered := sink.offerAll (frames.filterMap codec.logLine?) console
      (ofFrames codec request (seen ++ frames) (lines + offered.1), offered.2) := by
  induction frames generalizing seen lines console with
  | nil =>
      rw [List.append_nil]
      rfl
  | cons frame frames ih =>
      have lines : (frame :: frames).filterMap codec.logLine? =
          (codec.logLine? frame).toList ++ frames.filterMap codec.logLine? := by
        rw [List.filterMap_cons]
        cases codec.logLine? frame <;> rfl
      simp only [receiveAll, receive_ofFrames, ih, List.append_assoc, List.singleton_append, lines,
        LineSink.offerAll_append, Nat.add_assoc]

/-- What comes of frames, one after the other. -/
theorem Collector.receiveAll_new (codec : Codec) (sink : LineSink τ) (request : UInt32)
    (frames : List Frame) (console : τ) :
    (new request).receiveAll codec sink frames console =
      let offered := sink.offerAll (frames.filterMap codec.logLine?) console
      (ofFrames codec request frames offered.1, offered.2) := by
  have received := receiveAll_ofFrames codec sink request [] frames 0 console
  simp only [Nat.zero_add] at received
  exact received

namespace Arrival

/-- The lines that a console is offered: those that arrive, and those that log records
are shown as. -/
def offers (codec : Codec) (arrivals : List Arrival) : List String :=
  arrivals.filterMap fun
    | .line text => some text
    | .frame complete => codec.logLine? complete

/-- Arrivals up to the frame with this number, counted from one. -/
def through : Nat → List Arrival → List Arrival
  | 0, _ => []
  | _ + 1, [] => []
  | count + 1, .line text :: rest => .line text :: through (count + 1) rest
  | count + 1, .frame complete :: rest => .frame complete :: through count rest

/-- What these bytes bring, from the first of them on. -/
def ofBytes (bytes : List UInt8) : List Arrival :=
  (ofInput Frame.maxPayload bytes .idle .empty).1

theorem ofBytes_append (first second : List UInt8) :
    ∃ more, ofBytes (first ++ second) = ofBytes first ++ more := by
  rw [ofBytes, ofInput_append]
  exact ⟨_, rfl⟩

theorem offers_append (codec : Codec) (first second : List Arrival) :
    offers codec (first ++ second) = offers codec first ++ offers codec second :=
  List.filterMap_append

theorem offers_frame (codec : Codec) (complete : Frame) :
    offers codec [.frame complete] = (codec.logLine? complete).toList := by
  cases shown : codec.logLine? complete <;> simp [offers, shown]

/-- Arrivals that hold the frame with this number go on behind it unseen. -/
theorem through_append {count : Nat} {arrivals : List Arrival}
    (within : count ≤ (frames arrivals).length) (more : List Arrival) :
    through count (arrivals ++ more) = through count arrivals := by
  induction arrivals generalizing count with
  | nil =>
      rw [Nat.le_zero.mp within]
      cases more <;> rfl
  | cons arrival arrivals ih =>
      cases count with
      | zero => rfl
      | succ count =>
          cases arrival with
          | line text => exact congrArg (.line text :: ·) (ih within)
          | frame complete =>
              exact congrArg (.frame complete :: ·) (ih (Nat.le_of_succ_le_succ within))

/-- Arrivals up to a frame that nothing comes behind are all of them. -/
theorem through_concat_frame (arrivals : List Arrival) (complete : Frame) :
    through ((frames arrivals).length + 1) (arrivals ++ [.frame complete]) =
      arrivals ++ [.frame complete] := by
  induction arrivals with
  | nil => rfl
  | cons arrival arrivals ih =>
      cases arrival with
      | line text => exact congrArg (.line text :: ·) ih
      | frame first => exact congrArg (.frame first :: ·) ih

/-- The frames among arrivals up to one of them are the frames up to it. -/
theorem frames_through (count : Nat) (arrivals : List Arrival) :
    frames (through count arrivals) = (frames arrivals).take count := by
  induction arrivals generalizing count with
  | nil => cases count <;> simp [through, frames]
  | cons arrival arrivals ih =>
      cases count with
      | zero => rfl
      | succ count =>
          cases arrival with
          | line text => exact ih (count + 1)
          | frame complete => exact congrArg (complete :: ·) (ih count)

end Arrival

end RadioSnapshot
