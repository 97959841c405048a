import RadioSnapshot.Proofs.Frame.Arrival

/-!
# Receivers on their way through the input

A receiver that looks at bytes takes its deframer and its line buffer on through
them and offers the lines that arrive. Advances over neighbouring bytes compose,
so what many calls do follows from what one byte does.
-/

namespace RadioSnapshot

variable {σ τ : Type}

/-- Looking at the bytes takes a receiver and its console from one state to
another and meets these arrivals. Bytes held back and the idle mark are left out:
they do not decide what arrives. -/
structure Receiver.Advance (sink : LineSink τ) (bytes : List UInt8) (before : Receiver)
    (console : τ) (arrivals : List Arrival) (after : Receiver) (later : τ) : Prop where
  limits : after.limits = before.limits
  intake : Arrival.ofInput before.limits.maxPayload bytes before.deframer before.lines =
    (arrivals, after.deframer, after.lines)
  offered : (sink.offerAll (Arrival.lines arrivals) console).2 = later
  strayBytes : after.strayBytes = before.strayBytes +
    (Deframer.Event.strays (before.deframer.run before.limits.maxPayload bytes).1).length
  refusedLines : after.refusedLines + (sink.offerAll (Arrival.lines arrivals) console).1 =
    before.refusedLines + (Arrival.lines arrivals).length

namespace Receiver.Advance

variable {sink : LineSink τ} {first second bytes : List UInt8}
  {before middle after : Receiver} {console between later : τ}
  {early late arrivals : List Arrival}

theorem refl (sink : LineSink τ) (receiver : Receiver) (console : τ) :
    Advance sink [] receiver console [] receiver console :=
  ⟨rfl, rfl, rfl, rfl, rfl⟩

theorem trans (start : Advance sink first before console early middle between)
    (rest : Advance sink second middle between late after later) :
    Advance sink (first ++ second) before console (early ++ late) after later where
  limits := rest.limits.trans start.limits
  intake := by
    have restIntake := rest.intake
    rw [start.limits] at restIntake
    rw [Arrival.ofInput_append, start.intake]
    simp only [restIntake]
  offered := by
    rw [Arrival.lines_append, LineSink.offerAll_append]
    simp only [start.offered, rest.offered]
  strayBytes := by
    have sameDeframer : (before.deframer.run before.limits.maxPayload first).2 =
        middle.deframer :=
      congrArg (fun intake => intake.2.1) start.intake
    have restBytes := rest.strayBytes
    rw [start.limits, start.strayBytes] at restBytes
    rw [restBytes, Deframer.run_append]
    simp only [sameDeframer, Deframer.Event.strays, List.flatMap_append, List.length_append]
    omega
  refusedLines := by
    have startLines := start.refusedLines
    have restLines := rest.refusedLines
    rw [Arrival.lines_append, LineSink.offerAll_append]
    simp only [start.offered, List.length_append]
    omega

/-- Bytes held back and the idle mark may change on the side. -/
theorem aside (advance : Advance sink bytes before console arrivals after later)
    (beforeHeld afterHeld : List UInt8) (beforeIdle afterIdle : Bool) :
    Advance sink bytes { before with held := beforeHeld, idle := beforeIdle } console arrivals
      { after with held := afterHeld, idle := afterIdle } later :=
  ⟨advance.limits, advance.intake, advance.offered, advance.strayBytes,
    advance.refusedLines⟩

end Receiver.Advance

namespace Receiver

/-- Draining looks at bytes up to the first frame, which comes behind all lines,
or at all of them, and leaves the idle mark alone. -/
theorem drain_advance (sink : LineSink τ) (bytes : List UInt8) (receiver : Receiver)
    (console : τ) :
    ∃ (looked : List UInt8) (lines : List String),
      bytes = looked ++ (drain sink bytes receiver console).2.1.held ∧
      Advance sink looked receiver console
        (lines.map .line ++ (drain sink bytes receiver console).1.toList.map .frame)
        (drain sink bytes receiver console).2.1 (drain sink bytes receiver console).2.2 ∧
      (drain sink bytes receiver console).2.1.idle = receiver.idle := by
  induction bytes generalizing receiver console with
  | nil =>
      refine ⟨[], [], rfl, ?_, rfl⟩
      exact (Advance.refl sink receiver console).aside receiver.held [] receiver.idle _
  | cons byte bytes ih =>
      simp only [drain]
      rcases step : receiver.deframer.push receiver.limits.maxPayload byte with
        ⟨_ | complete | strays, deframer⟩
      case pending =>
        obtain ⟨looked, lines, split, advance, idle⟩ :=
          ih { receiver with deframer } console
        have here : Advance sink [byte] receiver console [] { receiver with deframer }
            console :=
          ⟨rfl, by simp [Arrival.ofInput, Deframer.run, step, Arrival.ofEvents], rfl,
            by simp [Deframer.run, step, Deframer.Event.strays, Deframer.Event.strayBytes],
            rfl⟩
        exact ⟨byte :: looked, lines, congrArg (byte :: ·) split, here.trans advance, idle⟩
      case frame =>
        refine ⟨[byte], [], rfl, ?_, rfl⟩
        exact ⟨rfl, by simp [Arrival.ofInput, Deframer.run, step, Arrival.ofEvents], rfl,
          by simp [Deframer.run, step, Deframer.Event.strays, Deframer.Event.strayBytes],
          rfl⟩
      case stray =>
        have buffer := receiver.lines.pushAll_buffer sink strays console
        have offered := receiver.lines.pushAll_console sink strays console
        have counted := receiver.lines.pushAll_refused sink strays console
        rcases gathered : receiver.lines.pushAll sink strays console with
          ⟨refused, gatheredLines, gatheredConsole⟩
        simp only [gathered] at buffer offered counted ⊢
        obtain ⟨looked, lines, split, advance, idle⟩ :=
          ih { receiver with
            deframer, lines := gatheredLines
            strayBytes := receiver.strayBytes + strays.length
            refusedLines := receiver.refusedLines + refused } gatheredConsole
        have here : Advance sink [byte] receiver console
            ((receiver.lines.run strays).1.map .line)
            { receiver with
              deframer, lines := gatheredLines
              strayBytes := receiver.strayBytes + strays.length
              refusedLines := receiver.refusedLines + refused } gatheredConsole := by
          refine ⟨rfl, ?_, ?_, ?_, ?_⟩
          · simp [Arrival.ofInput, Deframer.run, step, Arrival.ofEvents, buffer]
          · simp [offered]
          · simp [Deframer.run, step, Deframer.Event.strays, Deframer.Event.strayBytes]
          · simp only [Arrival.lines_map_line]
            omega
        refine ⟨byte :: looked, (receiver.lines.run strays).1 ++ lines,
          congrArg (byte :: ·) split, ?_, idle⟩
        rw [List.map_append, List.append_assoc]
        exact here.trans advance

theorem drain_idle (sink : LineSink τ) (bytes : List UInt8) (receiver : Receiver)
    (console : τ) : (drain sink bytes receiver console).2.1.idle = receiver.idle := by
  obtain ⟨_, _, _, _, sameIdle⟩ := drain_advance sink bytes receiver console
  exact sameIdle

end Receiver

end RadioSnapshot
