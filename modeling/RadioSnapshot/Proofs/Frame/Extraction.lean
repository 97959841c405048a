import RadioSnapshot.Proofs.Frame.Reception

/-!
# What a receiver extracts

The frames that a receiver finds, and the failures that it meets, do not depend on who is
offered the console lines. A receiver may therefore be called with the lines set aside, to
be offered later, and the results of so many calls are those of the receiver and its link
alone.
-/

namespace RadioSnapshot

variable {σ τ : Type}

theorem LineBuffer.pushAll_collect (bytes : List UInt8) (buffer : LineBuffer)
    (lines : List String) :
    pushAll .collect bytes buffer lines =
      (0, (run bytes buffer).2, lines ++ (run bytes buffer).1) := by
  induction bytes generalizing buffer lines with
  | nil => simp [pushAll, run]
  | cons byte bytes ih =>
      simp only [pushAll, run]
      rcases buffer.push byte with ⟨_ | line, next⟩
      · exact ih next lines
      · simp only [LineSink.collect, LineSink.keep] at ih ⊢
        simp [ih]

namespace Receiver

/-- The receiver with nothing said of the lines that were refused. -/
def unrefused (receiver : Receiver) : Receiver :=
  { receiver with refusedLines := 0 }

/-- Lines can be set aside while bytes are looked at, and offered afterwards. -/
theorem drain_collect (sink : LineSink τ) (bytes : List UInt8) (receiver : Receiver)
    (console : τ) (lines : List String) :
    ∃ more,
      drain .collect bytes receiver.unrefused lines =
        ((drain sink bytes receiver console).1, (drain sink bytes receiver console).2.1.unrefused,
          lines ++ more) ∧
      sink.Offers more receiver.refusedLines console
        (drain sink bytes receiver console).2.1.refusedLines
        (drain sink bytes receiver console).2.2 := by
  induction bytes generalizing receiver console lines with
  | nil => exact ⟨[], by simp [drain, unrefused], .nothing sink _ console⟩
  | cons byte bytes ih =>
      have limits : receiver.unrefused.limits = receiver.limits := rfl
      have deframer : receiver.unrefused.deframer = receiver.deframer := rfl
      have sameLines : receiver.unrefused.lines = receiver.lines := rfl
      simp only [drain, limits, deframer]
      rcases receiver.deframer.push receiver.limits.maxPayload byte with
        ⟨_ | complete | strays, next⟩
      case pending => exact ih { receiver with deframer := next } console lines
      case frame => exact ⟨[], by simp [unrefused], .nothing sink _ console⟩
      case stray =>
        have buffer := receiver.lines.pushAll_buffer sink strays console
        have offers := receiver.lines.pushAll_offers sink strays receiver.refusedLines console
        rcases gathered : receiver.lines.pushAll sink strays console with
          ⟨refused, gatheredLines, gatheredConsole⟩
        simp only [gathered] at buffer offers
        obtain ⟨more, near, far⟩ := ih
          { receiver with
            deframer := next, lines := gatheredLines
            strayBytes := receiver.strayBytes + strays.length
            refusedLines := receiver.refusedLines + refused }
          gatheredConsole (lines ++ (receiver.lines.run strays).1)
        simp only [gathered, sameLines, LineBuffer.pushAll_collect, ← buffer]
        refine ⟨(receiver.lines.run strays).1 ++ more, ?_, offers.append far⟩
        rw [← List.append_assoc]
        exact near

/-- Lines that are set aside are not refused. -/
theorem drain_unrefused {receiver : Receiver} (unrefused : receiver.unrefused = receiver)
    (bytes : List UInt8) (lines : List String) :
    let after := (drain .collect bytes receiver lines).2.1
    after.unrefused = after := by
  obtain ⟨_, near, _⟩ := drain_collect .collect bytes receiver lines lines
  rw [unrefused] at near
  exact (congrArg (fun drained => drained.2.1) near).symm

/-- What a receiver and its link give in so many calls, with the receiver and the link
behind them. Each call sets its lines aside. -/
def extraction (read : LinkRead σ) :
    Nat → Receiver → σ → List (Except FrameError (Option Frame)) × Receiver × σ
  | 0, receiver, state => ([], receiver, state)
  | count + 1, receiver, state =>
      let (result, after) := Reception.nextFrom read .collect ⟨receiver, state, []⟩
      let (others, last) := extraction read count after.receiver after.source
      (result :: others, last)

theorem extraction_add (read : LinkRead σ) (first second : Nat) (receiver : Receiver)
    (state : σ) :
    extraction read (first + second) receiver state =
      let before := extraction read first receiver state
      let after := extraction read second before.2.1 before.2.2
      (before.1 ++ after.1, after.2) := by
  induction first generalizing receiver state with
  | zero => simp [extraction]
  | succ first ih =>
      rw [Nat.succ_add]
      simp only [extraction, ih, List.cons_append]

/-- One more call. -/
theorem extraction_succ (read : LinkRead σ) (count : Nat) (receiver : Receiver) (state : σ) :
    extraction read (count + 1) receiver state =
      let before := extraction read count receiver state
      let (result, after) := Reception.nextFrom read .collect ⟨before.2.1, before.2.2, []⟩
      (before.1 ++ [result], after.receiver, after.source) :=
  extraction_add read count 1 receiver state

theorem length_extraction (read : LinkRead σ) (count : Nat) (receiver : Receiver)
    (state : σ) : (extraction read count receiver state).1.length = count := by
  induction count generalizing receiver state with
  | zero => rfl
  | succ count ih => simp only [extraction, List.length_cons, ih]

/-- More calls begin with the results of fewer. -/
theorem extraction_take (read : LinkRead σ) {fewer count : Nat} (within : fewer ≤ count)
    (receiver : Receiver) (state : σ) :
    (extraction read count receiver state).1.take fewer =
      (extraction read fewer receiver state).1 := by
  obtain ⟨more, rfl⟩ := Nat.exists_eq_add_of_le within
  rw [extraction_add]
  exact List.take_left' (length_extraction read fewer receiver state)

end Receiver

namespace Reception

/-- Lines can be set aside while the link is read, and offered afterwards. -/
theorem readOn_collect (read : LinkRead σ) (sink : LineSink τ) (reception : Reception σ τ)
    (lines : List String) :
    let far := reception.readOn read sink
    ∃ more,
      readOn read .collect ⟨reception.receiver.unrefused, reception.source, lines⟩ =
        (far.1, ⟨far.2.receiver.unrefused, far.2.source, lines ++ more⟩) ∧
      sink.Offers more reception.receiver.refusedLines reception.console
        far.2.receiver.refusedLines far.2.console := by
  have limits : reception.receiver.unrefused.limits = reception.receiver.limits := rfl
  simp only [readOn, limits]
  rcases read (max reception.receiver.limits.chunk 1) reception.source with
    ⟨error | data, state⟩
  · exact ⟨[], by simp, .nothing sink _ _⟩
  · by_cases empty : data.isEmpty = true
    · simp only [empty, if_true]
      exact ⟨[], by simp [Receiver.unrefused], .nothing sink _ _⟩
    · obtain ⟨more, near, far⟩ := Receiver.drain_collect sink data
        { reception.receiver with idle := false } reception.console lines
      have looking : Receiver.drain .collect data
          { reception.receiver.unrefused with idle := false } lines = _ := near
      simp only [limits] at looking
      simp only [empty, looking]
      exact ⟨more, rfl, far⟩

/-- Lines can be set aside during a call, and offered afterwards. -/
theorem nextFrom_collect (read : LinkRead σ) (sink : LineSink τ) (reception : Reception σ τ)
    (lines : List String) :
    let far := reception.nextFrom read sink
    ∃ more,
      nextFrom read .collect ⟨reception.receiver.unrefused, reception.source, lines⟩ =
        (far.1, ⟨far.2.receiver.unrefused, far.2.source, lines ++ more⟩) ∧
      sink.Offers more reception.receiver.refusedLines reception.console
        far.2.receiver.refusedLines far.2.console := by
  obtain ⟨held, near, far⟩ := Receiver.drain_collect sink reception.receiver.held
    reception.receiver reception.console lines
  have sameHeld : reception.receiver.unrefused.held = reception.receiver.held := rfl
  simp only [nextFrom, Receiver.drainHeld, sameHeld, near]
  rcases drained : reception.receiver.drain sink reception.receiver.held reception.console with
    ⟨_ | complete, receiver, console⟩ <;> simp only [drained] at far ⊢
  · obtain ⟨more, nearRead, farRead⟩ :=
      readOn_collect read sink ⟨receiver, reception.source, console⟩ (lines ++ held)
    refine ⟨held ++ more, ?_, far.append farRead⟩
    rw [← List.append_assoc]
    exact nearRead
  · exact ⟨held, rfl, far⟩

theorem readOn_unrefused (read : LinkRead σ) {receiver : Receiver}
    (unrefused : receiver.unrefused = receiver) (state : σ) (lines : List String) :
    let after := (readOn read .collect ⟨receiver, state, lines⟩).2
    after.receiver.unrefused = after.receiver := by
  obtain ⟨_, near, _⟩ := readOn_collect read .collect ⟨receiver, state, lines⟩ lines
  rw [unrefused] at near
  exact (congrArg (fun call => call.2.receiver) near).symm

theorem nextFrom_unrefused (read : LinkRead σ) {receiver : Receiver}
    (unrefused : receiver.unrefused = receiver) (state : σ) (lines : List String) :
    let after := (nextFrom read .collect ⟨receiver, state, lines⟩).2
    after.receiver.unrefused = after.receiver := by
  obtain ⟨_, near, _⟩ := nextFrom_collect read .collect ⟨receiver, state, lines⟩ lines
  rw [unrefused] at near
  exact (congrArg (fun call => call.2.receiver) near).symm

/-- Lines set aside before are not looked at. -/
theorem readOn_aside (read : LinkRead σ) {receiver : Receiver}
    (unrefused : receiver.unrefused = receiver) (state : σ) (lines : List String) :
    let far := readOn read .collect ⟨receiver, state, []⟩
    ∃ console, readOn read .collect ⟨receiver, state, lines⟩ =
      (far.1, ⟨far.2.receiver, far.2.source, console⟩) := by
  obtain ⟨more, near, _⟩ := readOn_collect read .collect ⟨receiver, state, []⟩ lines
  simp only [unrefused, readOn_unrefused read unrefused] at near
  exact ⟨lines ++ more, near⟩

/-- Lines can be set aside during many calls, and offered afterwards. -/
theorem calls_collect (source : FiniteSource σ) (sink : LineSink τ) (count : Nat)
    (reception : Reception σ τ) (lines : List String) :
    let far := reception.calls source sink count
    ∃ more,
      calls source .collect count ⟨reception.receiver.unrefused, reception.source, lines⟩ =
        (far.1, ⟨far.2.receiver.unrefused, far.2.source, lines ++ more⟩) ∧
      sink.Offers more reception.receiver.refusedLines reception.console
        far.2.receiver.refusedLines far.2.console := by
  induction count generalizing reception lines with
  | zero => exact ⟨[], by simp [calls], .nothing sink _ _⟩
  | succ count ih =>
      obtain ⟨now, near, far⟩ := nextFrom_collect source.read sink reception lines
      obtain ⟨later, nearLater, farLater⟩ := ih (reception.next source sink).2 (lines ++ now)
      refine ⟨now ++ later, ?_, far.append farLater⟩
      rw [next] at nearLater
      simp only [calls, next, near, nearLater, List.append_assoc]

end Reception

end RadioSnapshot
