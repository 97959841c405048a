import Mathlib.Logic.Relation
import RadioSnapshot.Link.Device
import RadioSnapshot.Proofs.Console.SingleLine
import RadioSnapshot.Proofs.Frame.Reception
import RadioSnapshot.Proofs.Frame.Resynchronisation

/-!
# What a receiver can hold

A receiver keeps bytes in three places: the beginning of a frame, the beginning of a console
line, and bytes read but not yet looked at. Each of them is bounded by the limits of the
receiver alone, however many calls are made and whatever the link gives. This is shown of every
step that a receiver makes, byte by byte, and calls are made of such steps.
-/

namespace RadioSnapshot

open Relation (ReflTransGen)

variable {σ τ : Type}

namespace Deframer

variable {limit : Nat}

/-- The beginning of a frame whose header is complete. -/
structure Candidate (limit : Nat) (deframer : Deframer) (high low : UInt8)
    (payload : List UInt8) : Prop where
  held : deframer.held = Frame.firstMagic :: Frame.secondMagic :: high :: low :: payload
  target : deframer.target = 4 + Frame.declaredLength high low
  positive : 1 ≤ Frame.declaredLength high low
  fits : Frame.declaredLength high low ≤ limit
  short : deframer.buffered < deframer.target
  /-- Nothing is given out in front of the target. -/
  waits : ∀ more : List UInt8, deframer.buffered + more.length < deframer.target →
    Event.emitted (run limit more deframer).1 = []
  /-- At the target the frame is given out. -/
  completes : ∀ more : List UInt8, deframer.buffered + more.length = deframer.target →
    Event.emitted (run limit more deframer).1 = [.frame ⟨payload ++ more⟩] ∧
      (run limit more deframer).2 = .idle

/-- Bytes of a payload are collected as long as they do not complete it. -/
theorem run_body {high low : UInt8} {target : Nat} {received : Array UInt8}
    {bytes : List UInt8} (short : Frame.headerSize + received.size + bytes.length < target) :
    Event.emitted (run limit bytes (.body high low target received)).1 = [] ∧
      (run limit bytes (.body high low target received)).2 =
        .body high low target (received ++ bytes.toArray) := by
  induction bytes generalizing received with
  | nil => simp [run, Event.emitted]
  | cons byte bytes ih =>
      rw [List.length_cons] at short
      have missing : ¬ target ≤ Frame.headerSize + (received.push byte).size := by
        rw [Array.size_push]
        omega
      obtain ⟨nothing, collected⟩ := @ih (received.push byte) (by rw [Array.size_push]; omega)
      simp only [run, push, if_neg missing]
      exact ⟨nothing, by rw [collected]; simp⟩

/-- The byte that completes a payload gives the frame out. -/
theorem run_body_complete {high low : UInt8} {target : Nat} {received : Array UInt8}
    {bytes : List UInt8} (short : Frame.headerSize + received.size < target)
    (whole : Frame.headerSize + received.size + bytes.length = target) :
    Event.emitted (run limit bytes (.body high low target received)).1 =
        [.frame ⟨received.toList ++ bytes⟩] ∧
      (run limit bytes (.body high low target received)).2 = .idle := by
  have some : bytes ≠ [] := by
    rintro rfl
    simp only [List.length_nil] at whole
    omega
  obtain ⟨early, last, rfl⟩ := (List.eq_nil_or_concat' bytes).resolve_left some
  rw [List.length_append, List.length_singleton] at whole
  obtain ⟨nothing, collected⟩ := @run_body limit high low target received early (by omega)
  have complete :
      target ≤ Frame.headerSize + ((received ++ early.toArray).push last).size := by
    simp only [Array.size_push, Array.size_append, List.size_toArray]
    omega
  rw [run_append]
  simp only [collected, run, push, if_pos complete]
  refine ⟨?_, trivial⟩
  rw [Event.emitted] at nothing
  rw [Event.emitted, List.filter_append, nothing]
  simp

/-- What a deframer can be in the middle of is a candidate once its header is complete. -/
theorem Viable.candidate {deframer : Deframer} (viable : deframer.Viable limit)
    (header : 4 ≤ deframer.buffered) :
    ∃ high low payload, deframer.Candidate limit high low payload := by
  cases deframer with
  | idle | started | magic | length => simp [buffered] at header
  | body high low target received =>
      obtain ⟨rfl, fits, short⟩ := viable
      have missing := Nat.add_lt_add_left short Frame.headerSize
      refine ⟨high, low, received.toList, rfl, rfl, by omega, fits, missing, ?_, ?_⟩
      · intro more below
        exact (run_body below).1
      · intro more reached
        exact run_body_complete missing reached

/-- No more is collected than a header and a payload that is not complete. -/
theorem Viable.buffered_le {deframer : Deframer} (viable : deframer.Viable limit) :
    deframer.buffered ≤ 3 + longestPayload limit := by
  cases deframer with
  | idle | started | magic | length =>
      simp only [buffered]
      omega
  | body high low target received =>
      obtain ⟨_, fits, short⟩ := viable
      have bounded := declaredLength_le_longestPayload fits
      rw [buffered, Frame.headerSize]
      omega

end Deframer

namespace LineBuffer

theorem empty_short : empty.pending.length < maxLineLength := by decide

/-- A line is cut as soon as it is as long as a line can be. -/
theorem push_short (byte : UInt8) {buffer : LineBuffer}
    (short : buffer.pending.length < maxLineLength) :
    (buffer.push byte).2.pending.length < maxLineLength := by
  rw [push]
  split
  · split
    · exact short
    · exact empty_short
  · split
    · dsimp only
      split
      · exact empty_short
      next growing => exact Nat.lt_of_not_le growing
    · exact short

theorem run_short (bytes : List UInt8) {buffer : LineBuffer}
    (short : buffer.pending.length < maxLineLength) :
    (run bytes buffer).2.pending.length < maxLineLength := by
  induction bytes generalizing buffer with
  | nil => exact short
  | cons byte bytes ih => exact ih (push_short byte short)

end LineBuffer

namespace Receiver

/-- What a receiver holds is bounded by its limits. -/
structure Bounded (limits : ReceiverLimits) (receiver : Receiver) : Prop where
  buffered_le : receiver.deframer.buffered ≤ 3 + min limits.maxPayload 0xFFFF
  candidate : 4 ≤ receiver.deframer.buffered →
    ∃ high low payload, receiver.deframer.Candidate limits.maxPayload high low payload
  pending_le : receiver.lines.pending.length ≤ 511
  printed : Printed receiver.lines.pending
  held_le : receiver.held.length ≤ max limits.chunk 1
  /-- All the bytes together. -/
  total_le : receiver.deframer.buffered + receiver.lines.pending.length + receiver.held.length ≤
    514 + min limits.maxPayload 0xFFFF + max limits.chunk 1

/-- The steps of a receiver with the console that it offers lines to. -/
inductive Step (sink : LineSink τ) : Receiver × τ → Receiver × τ → Prop
  /-- The next of the bytes read is looked at, and what belongs to no frame is text. -/
  | look {receiver : Receiver} {console later : τ} {byte : UInt8} {rest : List UInt8}
      {event : Deframer.Event} {deframer : Deframer} {lines : LineBuffer} {refused : Nat}
      (next : receiver.held = byte :: rest)
      (pushed : receiver.deframer.push receiver.limits.maxPayload byte = (event, deframer))
      (gathered : receiver.lines.pushAll sink event.strayBytes console =
        (refused, lines, later)) :
      Step sink (receiver, console)
        ({ receiver with
            deframer, lines, held := rest
            strayBytes := receiver.strayBytes + event.strayBytes.length
            refusedLines := receiver.refusedLines + refused }, later)
  /-- Nothing is left to look at, and the link gives whatever there is room for. -/
  | fill {receiver : Receiver} {console : τ} (nothing : receiver.held = []) {data : List UInt8}
      (room : data.length ≤ receiver.room) :
      Step sink (receiver, console)
        ({ receiver with held := data, idle := data.isEmpty }, console)

/-- What every step of a receiver keeps; its bounds follow from it. -/
structure Contained (limits : ReceiverLimits) (receiver : Receiver) : Prop where
  limits_eq : receiver.limits = limits
  viable : receiver.deframer.Viable limits.maxPayload
  short : receiver.lines.pending.length < maxLineLength
  printed : Printed receiver.lines.pending
  held_le : receiver.held.length ≤ max limits.chunk 1

namespace Contained

variable {limits : ReceiverLimits} {receiver : Receiver}

theorem new (limits : ReceiverLimits) : Contained limits (.new limits) :=
  ⟨rfl, trivial, LineBuffer.empty_short, printed_empty, Nat.zero_le _⟩

theorem bounded (contained : Contained limits receiver) : Bounded limits receiver := by
  have buffered : receiver.deframer.buffered ≤ 3 + min limits.maxPayload 0xFFFF :=
    contained.viable.buffered_le
  have pending : receiver.lines.pending.length ≤ 511 := Nat.le_of_lt_succ contained.short
  have held := contained.held_le
  exact ⟨buffered, contained.viable.candidate, pending, contained.printed, held, by omega⟩

theorem step {sink : LineSink τ} {before after : Receiver × τ} (step : Step sink before after)
    (contained : Contained limits before.1) : Contained limits after.1 := by
  obtain ⟨rfl, viable, short, printed, held_le⟩ := contained
  cases step with
  | @look receiver console later byte rest event deframer lines refused next pushed gathered =>
      have viableAfter := Deframer.viable_push viable byte
      rw [pushed] at viableAfter
      have buffer := receiver.lines.pushAll_buffer sink event.strayBytes console
      rw [gathered] at buffer
      have shortAfter := LineBuffer.run_short event.strayBytes short
      have printedAfter := (LineBuffer.run_printed event.strayBytes printed).2
      rw [← buffer] at shortAfter printedAfter
      rw [next, List.length_cons] at held_le
      exact ⟨rfl, viableAfter, shortAfter, printedAfter, Nat.le_of_succ_le held_le⟩
  | fill nothing room => exact ⟨rfl, viable, short, printed, room⟩

end Contained

theorem contained_of_steps {sink : LineSink τ} {limits : ReceiverLimits} {console : τ}
    {moment : Receiver × τ} (steps : ReflTransGen (Step sink) (.new limits, console) moment) :
    Contained limits moment.1 := by
  induction steps with
  | refl => exact .new limits
  | tail _ step ih => exact ih.step step

/-- Looking at bytes is a run of steps. -/
theorem steps_drain (sink : LineSink τ) (bytes : List UInt8) (receiver : Receiver)
    (console : τ) :
    ReflTransGen (Step sink) ({ receiver with held := bytes }, console)
      (drain sink bytes receiver console).2 := by
  induction bytes generalizing receiver console with
  | nil => exact .refl
  | cons byte bytes ih =>
      simp only [drain]
      rcases pushed : receiver.deframer.push receiver.limits.maxPayload byte with
        ⟨_ | frame | strays, deframer⟩
      -- A byte that is collected or completes a frame adds nothing to the lines, so that step
      -- gathers no bytes.
      case pending =>
        exact .head (.look rfl pushed rfl) (ih { receiver with deframer } console)
      case frame => exact .head (.look rfl pushed rfl) .refl
      case stray =>
        dsimp only
        rcases gathered : receiver.lines.pushAll sink strays console with ⟨refused, lines, later⟩
        have others := ih { receiver with
          deframer, lines
          strayBytes := receiver.strayBytes + strays.length
          refusedLines := receiver.refusedLines + refused } later
        exact .head (.look rfl pushed gathered) others

end Receiver

namespace Reception

/-- A call is a run of steps. -/
theorem steps_next (source : FiniteSource σ) (sink : LineSink τ) (reception : Reception σ τ) :
    ReflTransGen (Receiver.Step sink) (reception.receiver, reception.console)
      ((reception.next source sink).2.receiver, (reception.next source sink).2.console) := by
  have held := Receiver.steps_drain sink reception.receiver.held reception.receiver
    reception.console
  obtain ⟨_, _, _, advance, _⟩ := Receiver.drain_advance sink reception.receiver.held
    reception.receiver reception.console
  rcases next_cases source sink reception with
    ⟨frame, receiver, console, drained, called⟩ |
    ⟨receiver, console, state, drained,
      ⟨error, read, called⟩ | ⟨data, read, called⟩⟩ <;>
    rw [Receiver.drainHeld] at drained <;>
    rw [drained] at held advance <;>
    rw [called]
  case inl => exact held
  case inr.inl => exact held
  case inr.inr =>
    have nothing : receiver.held = [] := Receiver.held_of_drain_none drained
    -- The link was read with the room that the receiver had before it looked at anything.
    have room : data.length ≤ receiver.room := by
      rw [Receiver.room, advance.limits]
      exact source.length_le_room _ _ _ _ read
    have data := Receiver.steps_drain sink data { receiver with idle := data.isEmpty } console
    exact held.trans (.head (.fill nothing room) data)

theorem steps_calls (source : FiniteSource σ) (sink : LineSink τ) (count : Nat)
    (reception : Reception σ τ) :
    ReflTransGen (Receiver.Step sink) (reception.receiver, reception.console)
      ((reception.calls source sink count).2.receiver,
        (reception.calls source sink count).2.console) := by
  induction count generalizing reception with
  | zero => exact .refl
  | succ count ih => exact (steps_next source sink reception).trans (ih _)

/-- No input makes a receiver grow.

After any number of calls, whatever the source gives and whatever becomes of the lines, what is
collected of a frame, the unfinished line and the bytes not yet looked at are within bounds that
are computed from the limits of the receiver. Behind a complete header a frame is on its way that
the limits allow and that has not arrived. All of this holds in the middle of a call as well,
since calls are made of steps, and of links that never come to an end. -/
theorem receiver_stays_bounded (source : FiniteSource σ) (sink : LineSink τ)
    (limits : ReceiverLimits) (state : σ) (console : τ) :
    (∀ count : Nat,
      let after := (calls source sink count ⟨.new limits, state, console⟩).2
      after.receiver.Bounded limits ∧
      ReflTransGen (Receiver.Step sink) (.new limits, console)
        (after.receiver, after.console)) ∧
    ∀ moment : Receiver × τ,
      ReflTransGen (Receiver.Step sink) (.new limits, console) moment →
        moment.1.Bounded limits := by
  constructor
  · intro count after
    have steps := steps_calls source sink count ⟨.new limits, state, console⟩
    exact ⟨(Receiver.contained_of_steps steps).bounded, steps⟩
  · intro moment steps
    exact (Receiver.contained_of_steps steps).bounded

/-- A frame that lacks its last byte fills the deframer, and a full read the bytes held. -/
theorem receiver_stays_bounded_full :
    let after := (calls .stream .collect 2
      ⟨.new ⟨2, 4⟩, .ofScript [.data [0x94, 0xC3, 0, 2, 65]], []⟩).2
    let filled : Receiver :=
      { Receiver.new ⟨2, 4⟩ with held := [0x94, 0xC3, 0, 2], idle := false }
    after.receiver.Bounded ⟨2, 4⟩ ∧ after.receiver.deframer.buffered = 3 + min 2 0xFFFF ∧
      ReflTransGen (Receiver.Step .collect) (.new ⟨2, 4⟩, []) (filled, []) ∧
      filled.Bounded ⟨2, 4⟩ ∧ filled.held.length = max 4 1 := by
  intro after filled
  have bounds := receiver_stays_bounded .stream .collect ⟨2, 4⟩
    (.ofScript [.data [0x94, 0xC3, 0, 2, 65]]) []
  have reached : ReflTransGen (Receiver.Step .collect) (.new ⟨2, 4⟩, []) (filled, []) :=
    .single (.fill rfl (by decide))
  exact ⟨(bounds.1 2).1, by decide, reached, bounds.2 _ reached, rfl⟩

end Reception

end RadioSnapshot
