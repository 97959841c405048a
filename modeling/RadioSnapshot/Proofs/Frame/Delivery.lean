import RadioSnapshot.Link.Device
import RadioSnapshot.Proofs.Frame.Reception

/-!
# Delivery of scripted data

A script may cut its data in any way and put failures and pauses between the
pieces. A reception that is called often enough, and called again after a
failure, delivers all of the data; what it delivers depends on nothing else.
-/

namespace RadioSnapshot

variable {τ υ : Type}

namespace Device

/-- The data in a script. -/
def scriptData : List ReadEvent → List UInt8
  | [] => []
  | .data bytes :: rest => bytes ++ scriptData rest
  | .failure _ :: rest => scriptData rest

theorem readScript_data (room : Nat) (script : List ReadEvent) :
    FiniteSource.bytesOf (readScript room script).1 ++ scriptData (readScript room script).2 =
      scriptData script := by
  cases script with
  | nil => rfl
  | cons event rest =>
      cases event with
      | failure error => rfl
      | data bytes =>
          simp only [readScript, FiniteSource.bytesOf, scriptData]
          by_cases left : bytes.length ≤ room
          · simp [List.drop_eq_nil_of_le left, List.take_of_length_le left]
          · have some : bytes.drop room ≠ [] := by simpa using left
            simp [List.isEmpty_iff, some, scriptData, ← List.append_assoc]

/-- A read takes an event off the script or leaves a piece of it. -/
theorem length_readScript_le (room : Nat) (script : List ReadEvent) :
    (readScript room script).2.length ≤ script.length := by
  cases script with
  | nil => exact Nat.le_refl 0
  | cons event rest =>
      cases event with
      | failure error => exact Nat.le_succ _
      | data bytes =>
          simp only [readScript]
          split
          · exact Nat.le_succ _
          · exact Nat.le_refl _

/-- A read with room that brings nothing takes an event off the script. -/
theorem length_readScript_lt {room : Nat} {script : List ReadEvent} (positive : 0 < room)
    (nothing : FiniteSource.bytesOf (readScript room script).1 = []) :
    (readScript room script).2.length ≤ script.length - 1 := by
  cases script with
  | nil => exact Nat.le_refl 0
  | cons event rest =>
      cases event with
      | failure error => exact Nat.le_refl _
      | data bytes =>
          simp only [readScript, FiniteSource.bytesOf, List.take_eq_nil_iff] at nothing
          have empty : bytes = [] := nothing.resolve_left (Nat.ne_of_gt positive)
          simp [readScript, empty]

theorem scriptData_dropWhile (script : List ReadEvent) :
    scriptData (script.dropWhile isInterruption) = scriptData script := by
  induction script with
  | nil => rfl
  | cons event rest ih =>
      cases event with
      | data bytes => simp [isInterruption]
      | failure error =>
          rw [List.dropWhile_cons]
          split
          · exact ih
          · rfl

end Device

/-- The source reads a script from front to back: as it is, or as a stream. -/
def FiniteSource.Scripted (source : FiniteSource Device) : Prop :=
  source = .direct ∨ source = .stream

namespace FiniteSource.Scripted

variable {source : FiniteSource Device}

/-- Either way of reading is one read of the script, behind its interruptions in
the case of a stream. -/
theorem exists_readScript (scripted : source.Scripted) (room : Nat) (device : Device) :
    ∃ script : List ReadEvent,
      Device.scriptData script = Device.scriptData device.script ∧
      script.length ≤ device.script.length ∧
      bytesOf (source.read room device).1 = bytesOf (Device.readScript room script).1 ∧
      (source.read room device).2.script = (Device.readScript room script).2 := by
  rcases scripted with rfl | rfl
  · refine ⟨device.script, rfl, Nat.le_refl _, ?_, ?_⟩ <;>
      simp only [FiniteSource.direct, Device.readDirect] <;>
      rcases Device.readScript room device.script with ⟨_ | data, script⟩ <;> rfl
  · refine ⟨device.script.dropWhile Device.isInterruption, Device.scriptData_dropWhile _,
      (List.dropWhile_suffix _).length_le, ?_, ?_⟩ <;>
      simp only [FiniteSource.stream, Device.readStream] <;>
      rcases Device.readScript room (device.script.dropWhile Device.isInterruption) with
        ⟨error | data, script⟩ <;>
      simp only <;> split <;> simp_all [bytesOf]

/-- A read takes its bytes off the front of the data. -/
theorem read_data (scripted : source.Scripted) (room : Nat) (device : Device) :
    bytesOf (source.read room device).1 ++
        Device.scriptData (source.read room device).2.script =
      Device.scriptData device.script := by
  obtain ⟨script, sameData, _, bytes, left⟩ := scripted.exists_readScript room device
  rw [bytes, left, Device.readScript_data, sameData]

theorem length_read_le (scripted : source.Scripted) (room : Nat) (device : Device) :
    (source.read room device).2.script.length ≤ device.script.length := by
  obtain ⟨script, _, shorter, _, left⟩ := scripted.exists_readScript room device
  rw [left]
  exact Nat.le_trans (Device.length_readScript_le room script) shorter

theorem length_read_lt (scripted : source.Scripted) {room : Nat} (positive : 0 < room)
    {device : Device} (nothing : bytesOf (source.read room device).1 = []) :
    (source.read room device).2.script.length ≤ device.script.length - 1 := by
  obtain ⟨script, _, shorter, bytes, left⟩ := scripted.exists_readScript room device
  rw [bytes] at nothing
  rw [left]
  have fewer := Device.length_readScript_lt positive nothing
  omega

/-- Reads take their bytes off the front of the data. -/
theorem answers_data (scripted : source.Scripted) (room count : Nat) (device : Device) :
    received (source.answers room count device).1 ++
        Device.scriptData (source.answers room count device).2.script =
      Device.scriptData device.script := by
  induction count generalizing device with
  | zero => rfl
  | succ count ih =>
      have rest := ih (source.read room device).2
      simp only [answers, received, List.flatMap_cons, List.append_assoc] at rest ⊢
      rw [rest, scripted.read_data]

end FiniteSource.Scripted

namespace Reception

/-- How much of a script a reception has still to go through, events and bytes. -/
def ahead (reception : Reception Device τ) : Nat :=
  reception.source.script.length + (Device.scriptData reception.source.script).length +
    reception.receiver.held.length

/-- Every call goes on, failing or not. -/
theorem ahead_next_le {source : FiniteSource Device} (scripted : source.Scripted)
    (sink : LineSink τ) (reception : Reception Device τ) :
    (reception.next source sink).2.ahead ≤ reception.ahead - 1 := by
  have positive : 0 < reception.receiver.room := Nat.le_max_right _ 1
  have data := congrArg List.length
    (scripted.read_data reception.receiver.room reception.source)
  have events := scripted.length_read_le reception.receiver.room reception.source
  have quiet : FiniteSource.bytesOf
        (source.read reception.receiver.room reception.source).1 = [] →
      (source.read reception.receiver.room reception.source).2.script.length ≤
        reception.source.script.length - 1 :=
    scripted.length_read_lt positive
  have finished : reception.source.script.length = 0 →
      (Device.scriptData reception.source.script).length = 0 := by
    intro empty
    rw [List.length_eq_zero_iff.mp empty]
    rfl
  rw [List.length_append] at data
  rcases next_cases source sink reception with
    ⟨frame, receiver, console, drained, called⟩ |
    ⟨receiver, console, state, drained,
      ⟨error, read, called⟩ | ⟨bytes, read, called⟩⟩ <;>
    rw [called]
  case inl =>
    have shorter := Receiver.length_held_of_drain_some drained
    simp only [ahead]
    omega
  case inr.inl =>
    simp only [read, FiniteSource.bytesOf, List.length_nil, forall_const] at data events quiet
    have nothingHeld : receiver.held = [] := Receiver.held_of_drain_none drained
    simp only [ahead, nothingHeld, List.length_nil]
    omega
  case inr.inr =>
    simp only [read, FiniteSource.bytesOf] at data events quiet
    obtain ⟨_, _, split, _⟩ := Receiver.drain_advance sink bytes
      { receiver with idle := bytes.isEmpty } console
    have lengths := congrArg List.length split
    rw [List.length_append] at lengths
    rcases looking : Receiver.drain sink bytes { receiver with idle := bytes.isEmpty } console with
      ⟨_ | frame, after, later⟩
    · have nothingHeld := Receiver.held_of_drain_none looking
      simp only [ahead, nothingHeld, List.length_nil]
      cases bytes with
      | nil =>
          have fewer := quiet rfl
          simp only [List.length_nil] at data
          omega
      | cons byte bytes =>
          simp only [List.length_cons] at data
          omega
    · have shorter := Receiver.length_held_of_drain_some looking
      simp only [ahead]
      omega

theorem ahead_calls_le {source : FiniteSource Device} (scripted : source.Scripted)
    (sink : LineSink τ) (count : Nat) (reception : Reception Device τ) :
    (reception.calls source sink count).2.ahead ≤ reception.ahead - count := by
  induction count generalizing reception with
  | zero => exact Nat.le_refl _
  | succ count ih =>
      have first := ahead_next_le scripted sink reception
      have others := ih (reception.next source sink).2
      simp only [calls]
      omega

/-- At any time the data of a script is settled, held back or still in the script. -/
theorem settled_script {source : FiniteSource Device} (scripted : source.Scripted)
    (sink : LineSink τ) (limits : ReceiverLimits) (script : List ReadEvent) (console : τ)
    (count : Nat) :
    let run := calls source sink count ⟨.new limits, .ofScript script, console⟩
    ∃ seen : List UInt8,
      seen ++ run.2.receiver.held ++ Device.scriptData run.2.source.script =
        Device.scriptData script ∧
      Settled sink console limits.maxPayload seen (run.1.flatMap returned) run.2 := by
  intro run
  obtain ⟨reads, seen, _, sameSource, taken, settled⟩ :=
    settled_calls source sink limits (.ofScript script) console count
  refine ⟨seen, ?_, settled⟩
  rw [← taken, ← sameSource, scripted.answers_data]
  rfl

/-- Calls enough for every event and every byte of a script settle all of its data. -/
theorem settled_whole_script {source : FiniteSource Device} (scripted : source.Scripted)
    (sink : LineSink τ) (limits : ReceiverLimits) (script : List ReadEvent) (console : τ)
    {count : Nat} (enough : script.length + (Device.scriptData script).length ≤ count) :
    let run := calls source sink count ⟨.new limits, .ofScript script, console⟩
    Settled sink console limits.maxPayload (Device.scriptData script)
      (run.1.flatMap returned) run.2 := by
  intro run
  have nothingAhead : run.2.ahead ≤ _ :=
    ahead_calls_le scripted sink count ⟨.new limits, .ofScript script, console⟩
  obtain ⟨seen, split, settled⟩ := settled_script scripted sink limits script console count
  have lengths := congrArg List.length split
  simp only [ahead, Device.ofScript, Receiver.new, List.length_nil] at nothingAhead
  have nothingHeld : run.2.receiver.held = [] := by
    apply List.length_eq_zero_iff.mp
    omega
  have nothingLeft : Device.scriptData run.2.source.script = [] := by
    apply List.length_eq_zero_iff.mp
    omega
  rw [nothingHeld, nothingLeft, List.append_nil, List.append_nil] at split
  rw [← split]
  exact settled

/-- What a reception delivers is decided by the data alone.

At any time, what came out and what is in the making is what the deframer and the
line buffer make of the bytes read, less those held back, and no byte is missing.
A single call reads at most once, fails only when the source does, and then loses
nothing. Two scripts with the same data therefore deliver the same frames and
lines, whatever their pieces, failures and ways of being read. -/
theorem calls_deliver_data :
    (∀ {σ τ : Type} (source : FiniteSource σ) (sink : LineSink τ) (limits : ReceiverLimits)
      (state : σ) (console : τ) (count : Nat),
      let run := calls source sink count ⟨.new limits, state, console⟩
      ∃ (reads : Nat) (seen : List UInt8), reads ≤ count ∧
        (source.answers (max limits.chunk 1) reads state).2 = run.2.source ∧
        FiniteSource.received (source.answers (max limits.chunk 1) reads state).1 =
          seen ++ run.2.receiver.held ∧
        Settled sink console limits.maxPayload seen (run.1.flatMap returned) run.2 ∧
        (FiniteSource.received (source.answers (max limits.chunk 1) reads state).1).length =
          ((run.1.flatMap returned).map Frame.wireSize).sum + run.2.receiver.strayBytes +
            run.2.receiver.deframer.buffered + run.2.receiver.held.length) ∧
    (∀ {σ τ : Type} (source : FiniteSource σ) (sink : LineSink τ) (reception : Reception σ τ),
      Called source sink reception (reception.next source sink).1
        (reception.next source sink).2) ∧
    (∀ {τ υ : Type} {left right : FiniteSource Device}, left.Scripted → right.Scripted →
      ∀ (leftSink : LineSink τ) (rightSink : LineSink υ) (limit leftChunk rightChunk : Nat)
        (leftScript rightScript : List ReadEvent) (leftConsole : τ) (rightConsole : υ)
        (leftCount rightCount : Nat),
      Device.scriptData leftScript = Device.scriptData rightScript →
      leftScript.length + (Device.scriptData leftScript).length ≤ leftCount →
      rightScript.length + (Device.scriptData rightScript).length ≤ rightCount →
      let leftRun := calls left leftSink leftCount
        ⟨.new ⟨limit, leftChunk⟩, .ofScript leftScript, leftConsole⟩
      let rightRun := calls right rightSink rightCount
        ⟨.new ⟨limit, rightChunk⟩, .ofScript rightScript, rightConsole⟩
      leftRun.1.flatMap returned = rightRun.1.flatMap returned ∧
      leftRun.2.receiver.strayBytes = rightRun.2.receiver.strayBytes ∧
      leftRun.2.receiver.deframer = rightRun.2.receiver.deframer ∧
      leftRun.2.receiver.lines = rightRun.2.receiver.lines ∧
      ∃ lines : List String,
        leftRun.2.console = (leftSink.offerAll lines leftConsole).2 ∧
        rightRun.2.console = (rightSink.offerAll lines rightConsole).2) := by
  refine ⟨?_, next_called, ?_⟩
  · intro σ τ source sink limits state console count run
    obtain ⟨reads, seen, bounded, sameSource, taken, settled⟩ :=
      settled_calls source sink limits state console count
    refine ⟨reads, seen, bounded, sameSource, taken, settled, ?_⟩
    rw [taken, List.length_append, settled.length_eq]
  · intro τ υ left right leftScripted rightScripted leftSink rightSink limit leftChunk
      rightChunk leftScript rightScript leftConsole rightConsole leftCount rightCount sameData
      leftEnough rightEnough leftRun rightRun
    have leftSettled := settled_whole_script leftScripted leftSink ⟨limit, leftChunk⟩
      leftScript leftConsole leftEnough
    have rightSettled := settled_whole_script rightScripted rightSink ⟨limit, rightChunk⟩
      rightScript rightConsole rightEnough
    rw [← sameData] at rightSettled
    exact ⟨leftSettled.frames.trans rightSettled.frames.symm,
      leftSettled.strayBytes.trans rightSettled.strayBytes.symm,
      leftSettled.deframer.trans rightSettled.deframer.symm,
      leftSettled.lines.trans rightSettled.lines.symm,
      _, leftSettled.console, rightSettled.console⟩

/-- One frame in one piece, and the same bytes as a stream that is cut behind the start
of the frame, times out and is interrupted. -/
theorem calls_deliver_data_cut :
    FiniteSource.direct.Scripted ∧ FiniteSource.stream.Scripted ∧
    Device.scriptData [.data [0x94, 0xC3, 0, 1, 7]] =
      Device.scriptData [.data [0x94, 0xC3], .failure ⟨.timedOut, none⟩,
        .failure ⟨.interrupted, none⟩, .data [0, 1, 7]] ∧
    (calls .stream .collect 9 ⟨.new ⟨512, 256⟩, .ofScript [.data [0x94, 0xC3],
      .failure ⟨.timedOut, none⟩, .failure ⟨.interrupted, none⟩, .data [0, 1, 7]],
      []⟩).1.flatMap returned = [⟨[7]⟩] := by
  refine ⟨.inl rfl, .inr rfl, rfl, ?_⟩
  have same := calls_deliver_data.2.2 (.inl rfl) (.inr rfl) LineSink.collect LineSink.collect
    512 256 256 [.data [0x94, 0xC3, 0, 1, 7]]
    [.data [0x94, 0xC3], .failure ⟨.timedOut, none⟩, .failure ⟨.interrupted, none⟩,
      .data [0, 1, 7]]
    [] [] 6 9 rfl (by decide) (by decide)
  rw [← same.1]
  rfl

end Reception

end RadioSnapshot
