import RadioSnapshot.Proofs.Frame.Advance

/-!
# Calls on a reception

One call on a reception looks at the bytes held back and, when they complete no
frame, at what one read gives. `Called` says what a single call may do, and an
advance over the bytes looked at is what remains of many calls.
-/

namespace RadioSnapshot

variable {σ τ : Type}

namespace Receiver

/-- The frames that the bytes held back complete. -/
def heldFrames (receiver : Receiver) : List Frame :=
  Deframer.Event.frames (receiver.deframer.run receiver.limits.maxPayload receiver.held).1

/-- The room that a receiver has for one read. -/
def room (receiver : Receiver) : Nat :=
  max receiver.limits.chunk 1

namespace Advance

variable {sink : LineSink τ} {bytes : List UInt8} {before after : Receiver}
  {console later : τ} {arrivals : List Arrival}

theorem frames_run (advance : Advance sink bytes before console arrivals after later) :
    Deframer.Event.frames (before.deframer.run before.limits.maxPayload bytes).1 =
      Arrival.frames arrivals := by
  rw [← Arrival.frames_ofEvents _ before.lines]
  exact congrArg (fun intake => Arrival.frames intake.1) advance.intake

theorem deframer_eq (advance : Advance sink bytes before console arrivals after later) :
    (before.deframer.run before.limits.maxPayload bytes).2 = after.deframer :=
  congrArg (fun intake => intake.2.1) advance.intake

theorem lines_eq (advance : Advance sink bytes before console arrivals after later) :
    before.lines.run (Deframer.Event.strays
      (before.deframer.run before.limits.maxPayload bytes).1) =
      (Arrival.lines arrivals, after.lines) := by
  rw [← Arrival.lines_ofEvents]
  exact congrArg (fun intake => (Arrival.lines intake.1, intake.2.2)) advance.intake

end Advance

/-- Draining finds the first frame that the bytes complete. -/
theorem drain_eq_head? (sink : LineSink τ) (bytes : List UInt8) (receiver : Receiver)
    (console : τ) :
    (drain sink bytes receiver console).1 =
      (Deframer.Event.frames (receiver.deframer.run receiver.limits.maxPayload bytes).1).head? := by
  obtain ⟨looked, lines, split, advance, _⟩ := drain_advance sink bytes receiver console
  have frames := advance.frames_run
  rcases drained : drain sink bytes receiver console with ⟨found, after, later⟩
  simp only [drained] at split frames ⊢
  cases found with
  | none =>
      have nothingHeld := held_of_drain_none drained
      simp only [nothingHeld, List.append_nil] at split
      rw [split, frames]
      simp
  | some complete =>
      rw [split, Deframer.run_append]
      simp only [Deframer.Event.frames, List.filterMap_append] at frames ⊢
      rw [frames, Arrival.frames_append, Arrival.frames_map_line, Arrival.frames_map_frame]
      rfl

end Receiver

namespace FiniteSource

/-- Read a source so many times in a row, whatever it answers. -/
def answers (source : FiniteSource σ) (room : Nat) :
    Nat → σ → List (Except LinkError (List UInt8)) × σ
  | 0, state => ([], state)
  | count + 1, state =>
      let (answer, state) := source.read room state
      let (others, state) := answers source room count state
      (answer :: others, state)

/-- The bytes that an answer brings. -/
def bytesOf {ε : Type} : Except ε (List UInt8) → List UInt8
  | .ok data => data
  | .error _ => []

/-- The bytes that answers bring. -/
def received (answers : List (Except LinkError (List UInt8))) : List UInt8 :=
  answers.flatMap bytesOf

theorem answers_add (source : FiniteSource σ) (room first second : Nat) (state : σ) :
    source.answers room (first + second) state =
      let before := source.answers room first state
      let after := source.answers room second before.2
      (before.1 ++ after.1, after.2) := by
  induction first generalizing state with
  | zero => simp [answers]
  | succ first ih =>
      rw [Nat.succ_add]
      simp only [answers, ih, List.cons_append]

end FiniteSource

namespace Reception

/-- The frames that a call gives out. -/
def returned : Except FrameError (Option Frame) → List Frame
  | .ok found => found.toList
  | .error _ => []

/-- What one call does: it takes a frame out of the bytes held back, or reads the
source once, and then passes a failure on or looks at what came. -/
theorem next_cases (source : FiniteSource σ) (sink : LineSink τ) (reception : Reception σ τ) :
    (∃ frame receiver console,
      reception.receiver.drainHeld sink reception.console = (some frame, receiver, console) ∧
      reception.next source sink =
        (.ok (some frame), ⟨receiver, reception.source, console⟩)) ∨
    (∃ receiver console state,
      reception.receiver.drainHeld sink reception.console = (none, receiver, console) ∧
      ((∃ error, source.read reception.receiver.room reception.source = (.error error, state) ∧
        reception.next source sink = (.error (.link error), ⟨receiver, state, console⟩)) ∨
      (∃ data, source.read reception.receiver.room reception.source = (.ok data, state) ∧
        reception.next source sink =
          let looking := Receiver.drain sink data { receiver with idle := data.isEmpty } console
          (.ok looking.1, ⟨looking.2.1, state, looking.2.2⟩)))) := by
  obtain ⟨_, _, _, advance, _⟩ := Receiver.drain_advance sink reception.receiver.held
    reception.receiver reception.console
  rcases drained : reception.receiver.drainHeld sink reception.console with
    ⟨_ | frame, receiver, console⟩
  · have sameLimits : receiver.limits = reception.receiver.limits := by
      simp only [Receiver.drainHeld] at drained
      simpa only [drained] using advance.limits
    rcases read : source.read reception.receiver.room reception.source with ⟨error | data, state⟩
    · refine .inr ⟨receiver, console, state, rfl, .inl ⟨error, rfl, ?_⟩⟩
      rw [Receiver.room, ← sameLimits] at read
      simp only [next, nextFrom, readOn, drained, read]
    · refine .inr ⟨receiver, console, state, rfl, .inr ⟨data, rfl, ?_⟩⟩
      rw [Receiver.room, ← sameLimits] at read
      have nothingHeld : receiver.held = [] := Receiver.held_of_drain_none drained
      simp only [next, nextFrom, readOn, drained, read]
      cases data with
      | nil => simp [Receiver.drain, nothingHeld]
      | cons byte data => rfl
  · exact .inl ⟨frame, receiver, console, rfl, by simp only [next, nextFrom, drained]⟩

/-- What a call does to a reception, seen from outside. -/
structure Called (source : FiniteSource σ) (sink : LineSink τ) (before : Reception σ τ)
    (result : Except FrameError (Option Frame)) (after : Reception σ τ) : Prop where
  /-- A frame that is held back is given out without reading. -/
  unread : before.receiver.heldFrames ≠ [] →
    after.source = before.source ∧ result = .ok before.receiver.heldFrames.head?
  /-- Otherwise the source is read once; a failure of the source is one of the call. -/
  read : before.receiver.heldFrames = [] →
    after.source = (source.read before.receiver.room before.source).2 ∧
    ∀ error, result = .error error ↔
      ∃ cause, (source.read before.receiver.room before.source).1 = .error cause ∧
        error = .link cause
  /-- Without a frame everything has been looked at. -/
  drained : returned result = [] → after.receiver.held = []
  /-- A call that fails leaves everything as the bytes held back make it. -/
  failed : ∀ error, result = .error error →
    (none, after.receiver, after.console) =
      before.receiver.drainHeld sink before.console ∧
    after.receiver.idle = before.receiver.idle
  /-- Without a frame and a failure, the reception is idle when nothing came. -/
  idle : result = .ok none → (after.receiver.idle = true ↔
    (source.read before.receiver.room before.source).1 = .ok [])

theorem next_called (source : FiniteSource σ) (sink : LineSink τ) (reception : Reception σ τ) :
    Called source sink reception (reception.next source sink).1
      (reception.next source sink).2 := by
  have found := Receiver.drain_eq_head? sink reception.receiver.held reception.receiver
    reception.console
  have sameIdle := Receiver.drain_idle sink reception.receiver.held reception.receiver
    reception.console
  rcases next_cases source sink reception with
    ⟨frame, receiver, console, drained, called⟩ |
    ⟨receiver, console, state, drained,
      ⟨error, read, called⟩ | ⟨data, read, called⟩⟩ <;>
    rw [Receiver.drainHeld] at drained <;>
    rw [drained] at found sameIdle <;>
    rw [called]
  case inl =>
    have held : reception.receiver.heldFrames.head? = some frame := found.symm
    exact {
      unread := fun _ => ⟨rfl, by rw [held]⟩
      read := fun none => by simp [none] at held
      drained := fun none => by simp [returned] at none
      failed := fun error result => by simp at result
      idle := fun result => by simp at result }
  case inr.inl =>
    have held : reception.receiver.heldFrames = [] := List.head?_eq_none_iff.mp found.symm
    exact {
      unread := fun some => absurd held some
      read := fun _ => by simp [read, eq_comm]
      drained := fun _ => Receiver.held_of_drain_none drained
      failed := fun _ _ => ⟨drained.symm, sameIdle⟩
      idle := fun result => by simp at result }
  case inr.inr =>
    have held : reception.receiver.heldFrames = [] := List.head?_eq_none_iff.mp found.symm
    have lookingIdle := Receiver.drain_idle sink data
      { receiver with idle := data.isEmpty } console
    rcases looking : Receiver.drain sink data { receiver with idle := data.isEmpty } console with
      ⟨taken, after, later⟩
    simp only [looking] at lookingIdle
    exact {
      unread := fun some => absurd held some
      read := fun _ => by simp [read]
      drained := fun none => by
        cases taken with
        | none => exact Receiver.held_of_drain_none looking
        | some frame => simp [returned] at none
      failed := fun error result => by simp at result
      idle := fun _ => by simp [read, lookingIdle] }

/-- A call reads at most once and advances over some of the bytes at hand. -/
theorem next_advance (source : FiniteSource σ) (sink : LineSink τ) (reception : Reception σ τ) :
    ∃ (count : Nat) (looked : List UInt8) (arrivals : List Arrival), count ≤ 1 ∧
      (source.answers reception.receiver.room count reception.source).2 =
        (reception.next source sink).2.source ∧
      reception.receiver.held ++ FiniteSource.received
          (source.answers reception.receiver.room count reception.source).1 =
        looked ++ (reception.next source sink).2.receiver.held ∧
      Receiver.Advance sink looked reception.receiver reception.console arrivals
        (reception.next source sink).2.receiver (reception.next source sink).2.console ∧
      Arrival.frames arrivals = returned (reception.next source sink).1 := by
  obtain ⟨looked, lines, split, advance, _⟩ :=
    Receiver.drain_advance sink reception.receiver.held reception.receiver reception.console
  rcases next_cases source sink reception with
    ⟨frame, receiver, console, drained, called⟩ |
    ⟨receiver, console, state, drained,
      ⟨error, read, called⟩ | ⟨data, read, called⟩⟩ <;>
    rw [Receiver.drainHeld] at drained <;>
    rw [drained] at split advance <;>
    rw [called]
  case inl =>
    exact ⟨0, looked, _, Nat.zero_le 1, rfl, by simpa [FiniteSource.answers,
      FiniteSource.received] using split, advance, by simp [returned, Arrival.frames,
        Arrival.frame?]⟩
  case inr.inl =>
    refine ⟨1, looked, _, Nat.le_refl 1, ?_, ?_, advance, ?_⟩
    · simp [FiniteSource.answers, read]
    · simpa [FiniteSource.answers, FiniteSource.received, read, FiniteSource.bytesOf] using split
    · simp [returned]
  case inr.inr =>
    have nothingHeld := Receiver.held_of_drain_none drained
    simp only [nothingHeld, List.append_nil] at split
    obtain ⟨more, moreLines, moreSplit, further, _⟩ := Receiver.drain_advance sink data
      { receiver with idle := data.isEmpty } console
    refine ⟨1, looked ++ more, _, Nat.le_refl 1, ?_, ?_,
      advance.trans (further.aside receiver.held _ receiver.idle _), ?_⟩
    · simp [FiniteSource.answers, read]
    · simp only [FiniteSource.answers, FiniteSource.received, read, FiniteSource.bytesOf,
        List.flatMap_cons, List.flatMap_nil, List.append_nil, List.append_assoc]
      rw [← moreSplit, split]
    · simp [returned]

/-- Call so many times in a row, whatever the results. -/
def calls (source : FiniteSource σ) (sink : LineSink τ) :
    Nat → Reception σ τ → List (Except FrameError (Option Frame)) × Reception σ τ
  | 0, reception => ([], reception)
  | count + 1, reception =>
      let (result, reception) := reception.next source sink
      let (others, reception) := calls source sink count reception
      (result :: others, reception)

/-- Calls read at most once each and advance over the bytes at hand, those held
back at first and those read, up to the bytes held back in the end. -/
theorem calls_advance (source : FiniteSource σ) (sink : LineSink τ) (count : Nat)
    (reception : Reception σ τ) :
    ∃ (reads : Nat) (looked : List UInt8) (arrivals : List Arrival), reads ≤ count ∧
      (source.answers reception.receiver.room reads reception.source).2 =
        (reception.calls source sink count).2.source ∧
      reception.receiver.held ++ FiniteSource.received
          (source.answers reception.receiver.room reads reception.source).1 =
        looked ++ (reception.calls source sink count).2.receiver.held ∧
      Receiver.Advance sink looked reception.receiver reception.console arrivals
        (reception.calls source sink count).2.receiver
        (reception.calls source sink count).2.console ∧
      Arrival.frames arrivals = (reception.calls source sink count).1.flatMap returned := by
  induction count generalizing reception with
  | zero =>
      exact ⟨0, [], [], Nat.le_refl 0, rfl, by simp [calls, FiniteSource.answers,
        FiniteSource.received], .refl sink _ _, rfl⟩
  | succ count ih =>
      obtain ⟨reads, looked, arrivals, once, state, split, advance, frames⟩ :=
        next_advance source sink reception
      obtain ⟨moreReads, moreLooked, moreArrivals, bounded, moreState, moreSplit, further,
        moreFrames⟩ := ih (reception.next source sink).2
      have sameRoom : (reception.next source sink).2.receiver.room =
          reception.receiver.room := by
        rw [Receiver.room, advance.limits, Receiver.room]
      rw [sameRoom, ← state] at moreState moreSplit
      refine ⟨reads + moreReads, looked ++ moreLooked, arrivals ++ moreArrivals, by omega,
        ?_, ?_, advance.trans further, ?_⟩
      · rw [FiniteSource.answers_add]
        exact moreState
      · rw [FiniteSource.answers_add]
        simp only [FiniteSource.received, List.flatMap_append] at split moreSplit ⊢
        rw [← List.append_assoc, split, List.append_assoc, moreSplit, List.append_assoc]
        rfl
      · rw [Arrival.frames_append, frames, moreFrames]
        rfl

/-- What a reception has given out, and what it is in the middle of, is what the
deframer and the line buffer make of these bytes on their own. -/
structure Settled (sink : LineSink τ) (console : τ) (limit : Nat) (seen : List UInt8)
    (frames : List Frame) (reception : Reception σ τ) : Prop where
  frames : frames = Deframer.Event.frames (Deframer.idle.run limit seen).1
  deframer : reception.receiver.deframer = (Deframer.idle.run limit seen).2
  strayBytes : reception.receiver.strayBytes =
    (Deframer.Event.strays (Deframer.idle.run limit seen).1).length
  lines : reception.receiver.lines =
    (LineBuffer.empty.run (Deframer.Event.strays (Deframer.idle.run limit seen).1)).2
  console : reception.console = (sink.offerAll
    (LineBuffer.empty.run (Deframer.Event.strays (Deframer.idle.run limit seen).1)).1
    console).2

/-- The bytes settled are those of the frames given out, the stray ones and those
in the deframer. -/
theorem Settled.length_eq {sink : LineSink τ} {console : τ} {limit : Nat}
    {seen : List UInt8} {frames : List Frame} {reception : Reception σ τ}
    (settled : Settled sink console limit seen frames reception) :
    seen.length = (frames.map Frame.wireSize).sum + reception.receiver.strayBytes +
      reception.receiver.deframer.buffered := by
  have lengths := congrArg List.length (@Deframer.flatMap_wire_run limit .idle trivial seen)
  rw [Deframer.held_idle, List.nil_append, List.length_append,
    Deframer.Event.length_flatMap_wire, Deframer.length_held] at lengths
  rw [settled.frames, settled.strayBytes, settled.deframer]
  exact lengths.symm

/-- Calls on a fresh reception settle the bytes read, up to those held back. -/
theorem settled_calls (source : FiniteSource σ) (sink : LineSink τ) (limits : ReceiverLimits)
    (state : σ) (console : τ) (count : Nat) :
    ∃ (reads : Nat) (seen : List UInt8), reads ≤ count ∧
      (source.answers (max limits.chunk 1) reads state).2 =
        (calls source sink count ⟨.new limits, state, console⟩).2.source ∧
      FiniteSource.received (source.answers (max limits.chunk 1) reads state).1 =
        seen ++ (calls source sink count ⟨.new limits, state, console⟩).2.receiver.held ∧
      Settled sink console limits.maxPayload seen
        ((calls source sink count ⟨.new limits, state, console⟩).1.flatMap returned)
        (calls source sink count ⟨.new limits, state, console⟩).2 := by
  obtain ⟨reads, seen, arrivals, bounded, sameState, split, advance, frames⟩ :=
    calls_advance source sink count ⟨.new limits, state, console⟩
  have lines := advance.lines_eq
  refine ⟨reads, seen, bounded, sameState, split, ?_⟩
  exact {
    frames := frames.symm.trans advance.frames_run.symm
    deframer := advance.deframer_eq.symm
    strayBytes := advance.strayBytes.trans (Nat.zero_add _)
    lines := (congrArg Prod.snd lines).symm
    console := by
      rw [← advance.offered]
      exact congrArg (fun run => (sink.offerAll run.1 console).2) lines.symm }

end Reception

end RadioSnapshot
