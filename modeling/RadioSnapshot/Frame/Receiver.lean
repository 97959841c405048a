import RadioSnapshot.Console.LineBuffer
import RadioSnapshot.Frame.Deframer
import RadioSnapshot.Frame.Error
import RadioSnapshot.Link.Source

/-!
# Receiving frames

The receiver reads the link in chunks, gives out one frame at a time and offers
the console lines in between to a line sink. Bytes behind a frame are held back
until the next frame is asked for, and the link is read only when they do not
hold one.
-/

namespace RadioSnapshot

/-- The limits of a receiver. -/
structure ReceiverLimits where
  /-- The largest payload accepted. -/
  maxPayload : Nat
  /-- The room for one read. -/
  chunk : Nat
  deriving BEq, DecidableEq, Repr

def ReceiverLimits.standard : ReceiverLimits :=
  ⟨Frame.maxPayload, 256⟩

/-- What a receiver remembers between two frames. -/
structure Receiver where
  limits : ReceiverLimits
  deframer : Deframer
  lines : LineBuffer
  /-- Bytes read and not yet looked at. -/
  held : List UInt8
  /-- The number of bytes that belonged to no frame. -/
  strayBytes : Nat
  /-- The number of console lines that the sink refused. -/
  refusedLines : Nat
  /-- Whether the last read gave no bytes. -/
  idle : Bool
  deriving Repr

namespace Receiver

def new (limits : ReceiverLimits) : Receiver :=
  ⟨limits, .idle, .empty, [], 0, 0, false⟩

/-- Look at bytes up to the end of the first frame in them, and hold back those
behind it. -/
def drain {τ : Type} (sink : LineSink τ) :
    List UInt8 → Receiver → τ → Option Frame × Receiver × τ
  | [], receiver, console => (none, { receiver with held := [] }, console)
  | byte :: rest, receiver, console =>
      match receiver.deframer.push receiver.limits.maxPayload byte with
      | (.pending, deframer) => drain sink rest { receiver with deframer } console
      | (.frame frame, deframer) =>
          (some frame, { receiver with deframer, held := rest }, console)
      | (.stray bytes, deframer) =>
          let (refused, lines, console) := receiver.lines.pushAll sink bytes console
          drain sink rest
            { receiver with
              deframer, lines
              strayBytes := receiver.strayBytes + bytes.length
              refusedLines := receiver.refusedLines + refused }
            console

/-- A frame that was found leaves less to look at than there was. -/
theorem length_held_of_drain_some {τ : Type} {sink : LineSink τ} {bytes : List UInt8}
    {receiver after : Receiver} {console rest : τ} {frame : Frame}
    (drained : drain sink bytes receiver console = (some frame, after, rest)) :
    after.held.length < bytes.length := by
  induction bytes generalizing receiver console with
  | nil => simp [drain] at drained
  | cons byte bytes ih =>
      simp only [drain] at drained
      split at drained
      next => exact Nat.lt_succ_of_lt (ih drained)
      next =>
        simp only [Prod.mk.injEq] at drained
        simp [← drained.2.1]
      next => exact Nat.lt_succ_of_lt (ih drained)

/-- Where no frame was found everything was looked at. -/
theorem held_of_drain_none {τ : Type} {sink : LineSink τ} {bytes : List UInt8}
    {receiver after : Receiver} {console rest : τ}
    (drained : drain sink bytes receiver console = (none, after, rest)) :
    after.held = [] := by
  induction bytes generalizing receiver console with
  | nil =>
      simp only [drain, Prod.mk.injEq, true_and] at drained
      simp [← drained.1]
  | cons byte bytes ih =>
      simp only [drain] at drained
      split at drained
      next => exact ih drained
      next => simp at drained
      next => exact ih drained

/-- Look at the bytes held back. -/
def drainHeld {τ : Type} (sink : LineSink τ) (receiver : Receiver) (console : τ) :
    Option Frame × Receiver × τ :=
  drain sink receiver.held receiver console

end Receiver

/-- A receiver with the states of its source and of its line sink. -/
structure Reception (σ τ : Type) where
  receiver : Receiver
  source : σ
  console : τ

namespace Reception

variable {σ τ : Type}

/-- Read the link once and look at what came. A failure to read changes nothing else. -/
def readOn (read : LinkRead σ) (sink : LineSink τ) (reception : Reception σ τ) :
    Except FrameError (Option Frame) × Reception σ τ :=
  match read (max reception.receiver.limits.chunk 1) reception.source with
  | (.error error, state) => (.error (.link error), { reception with source := state })
  | (.ok data, state) =>
      if data.isEmpty then
        (.ok none, ⟨{ reception.receiver with idle := true }, state, reception.console⟩)
      else
        let (frame, receiver, console) :=
          Receiver.drain sink data { reception.receiver with idle := false } reception.console
        (.ok frame, ⟨receiver, state, console⟩)

/-- Ask for the next frame, whatever the link does when it is read. It is read at most
once, and not at all when the bytes held back complete a frame. No frame means that there
is none yet. -/
def nextFrom (read : LinkRead σ) (sink : LineSink τ) (reception : Reception σ τ) :
    Except FrameError (Option Frame) × Reception σ τ :=
  match reception.receiver.drainHeld sink reception.console with
  | (some frame, receiver, console) =>
      (.ok (some frame), ⟨receiver, reception.source, console⟩)
  | (none, receiver, console) => readOn read sink ⟨receiver, reception.source, console⟩

/-- Ask a source for the next frame. -/
def next (source : FiniteSource σ) (sink : LineSink τ) (reception : Reception σ τ) :
    Except FrameError (Option Frame) × Reception σ τ :=
  nextFrom source.read sink reception

end Reception

end RadioSnapshot
