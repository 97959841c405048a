import Mathlib.Algebra.GroupWithZero.Nat
import RadioSnapshot.Frame.Receiver
import RadioSnapshot.Proofs.Console.Lines
import RadioSnapshot.Proofs.Frame.Tokenisation

/-!
# What arrives over the link

Read from one end to the other, an input is a sequence of frames and console
lines. These arrivals are computed from the input alone, by the deframer and the
line buffer; what a receiver does with bytes is stated against them.
-/

namespace RadioSnapshot

variable {τ : Type}

namespace Frame

@[simp] theorem length_header (length : Nat) : (header length).length = headerSize := rfl

@[simp] theorem length_wire (frame : Frame) : frame.wire.length = frame.wireSize := by
  simp [wire, wireSize]

end Frame

namespace Deframer

theorem run_append (limit : Nat) (first second : List UInt8) (deframer : Deframer) :
    run limit (first ++ second) deframer =
      let before := run limit first deframer
      let after := run limit second before.2
      (before.1 ++ after.1, after.2) := by
  induction first generalizing deframer with
  | nil => simp [run]
  | cons byte first ih => simp [run, ih]

namespace Event

def frame? : Event → Option Frame
  | .frame complete => some complete
  | _ => none

def strayBytes : Event → List UInt8
  | .stray bytes => bytes
  | _ => []

/-- The frames among events. -/
def frames (events : List Event) : List Frame :=
  events.filterMap frame?

/-- The bytes among events that belong to no frame. -/
def strays (events : List Event) : List UInt8 :=
  events.flatMap strayBytes

/-- The bytes of events are those of their frames and the stray ones. -/
theorem length_flatMap_wire (events : List Event) :
    (events.flatMap wire).length =
      ((frames events).map Frame.wireSize).sum + (strays events).length := by
  induction events with
  | nil => rfl
  | cons event events ih =>
      simp only [List.flatMap_cons, List.length_append, ih, frames, strays]
      cases event with
      | pending => simp [List.filterMap_cons, frame?, strayBytes, wire]
      | frame complete =>
          simp only [List.filterMap_cons, frame?, List.map_cons, List.sum_cons, strayBytes,
            List.length_nil, wire, Frame.length_wire]
          omega
      | stray bytes =>
          simp only [List.filterMap_cons, frame?, strayBytes, wire]
          omega

end Event

end Deframer

/-- A frame or a console line. -/
inductive Arrival where
  | line (text : String)
  | frame (frame : Frame)
  deriving BEq, DecidableEq, Repr

namespace Arrival

def line? : Arrival → Option String
  | .line text => some text
  | .frame _ => none

def frame? : Arrival → Option Frame
  | .line _ => none
  | .frame complete => some complete

def lines (arrivals : List Arrival) : List String :=
  arrivals.filterMap line?

def frames (arrivals : List Arrival) : List Frame :=
  arrivals.filterMap frame?

@[simp] theorem lines_append (first second : List Arrival) :
    lines (first ++ second) = lines first ++ lines second := by
  simp [lines]

@[simp] theorem frames_append (first second : List Arrival) :
    frames (first ++ second) = frames first ++ frames second := by
  simp [frames]

@[simp] theorem lines_map_line (texts : List String) : lines (texts.map line) = texts := by
  simp [lines, List.filterMap_map, Function.comp_def, line?]

@[simp] theorem frames_map_line (texts : List String) : frames (texts.map line) = [] := by
  simp [frames, List.filterMap_map, Function.comp_def, frame?]

@[simp] theorem lines_map_frame (complete : List Frame) : lines (complete.map frame) = [] := by
  simp [lines, List.filterMap_map, Function.comp_def, line?]

@[simp] theorem frames_map_frame (complete : List Frame) :
    frames (complete.map frame) = complete := by
  simp [frames, List.filterMap_map, Function.comp_def, frame?]

/-- What events bring, in order. Stray bytes bring the lines that they complete. -/
def ofEvents : List Deframer.Event → LineBuffer → List Arrival × LineBuffer
  | [], buffer => ([], buffer)
  | .pending :: rest, buffer => ofEvents rest buffer
  | .frame complete :: rest, buffer =>
      let (arrivals, buffer) := ofEvents rest buffer
      (.frame complete :: arrivals, buffer)
  | .stray bytes :: rest, buffer =>
      let (completed, buffer) := buffer.run bytes
      let (arrivals, buffer) := ofEvents rest buffer
      (completed.map .line ++ arrivals, buffer)

theorem ofEvents_append (first second : List Deframer.Event) (buffer : LineBuffer) :
    ofEvents (first ++ second) buffer =
      let before := ofEvents first buffer
      let after := ofEvents second before.2
      (before.1 ++ after.1, after.2) := by
  induction first generalizing buffer with
  | nil => rfl
  | cons event first ih => cases event <;> simp [ofEvents, ih]

/-- The frames that arrive are those among the events. -/
theorem frames_ofEvents (events : List Deframer.Event) (buffer : LineBuffer) :
    frames (ofEvents events buffer).1 = Deframer.Event.frames events := by
  induction events generalizing buffer with
  | nil => rfl
  | cons event events ih =>
      cases event with
      | pending => exact ih buffer
      | frame complete => exact congrArg (complete :: ·) (ih buffer)
      | stray bytes =>
          simp only [ofEvents, frames_append, frames_map_line, List.nil_append]
          exact ih (buffer.run bytes).2

/-- The lines that arrive, and the line left over, are gathered from the stray
bytes. -/
theorem lines_ofEvents (events : List Deframer.Event) (buffer : LineBuffer) :
    (lines (ofEvents events buffer).1, (ofEvents events buffer).2) =
      buffer.run (Deframer.Event.strays events) := by
  induction events generalizing buffer with
  | nil => rfl
  | cons event events ih =>
      cases event with
      | pending => exact ih buffer
      | frame complete => exact ih buffer
      | stray bytes =>
          simp only [ofEvents, lines_append, lines_map_line, Deframer.Event.strays,
            List.flatMap_cons, Deframer.Event.strayBytes]
          rw [LineBuffer.run_append]
          have rest := ih (buffer.run bytes).2
          simp only [Deframer.Event.strays] at rest
          simp [← rest]

/-- What an input brings, and what is left over behind it. -/
def ofInput (limit : Nat) (input : List UInt8) (deframer : Deframer) (buffer : LineBuffer) :
    List Arrival × Deframer × LineBuffer :=
  let (events, deframer) := deframer.run limit input
  let (arrivals, buffer) := ofEvents events buffer
  (arrivals, deframer, buffer)

theorem ofInput_append (limit : Nat) (first second : List UInt8) (deframer : Deframer)
    (buffer : LineBuffer) :
    ofInput limit (first ++ second) deframer buffer =
      let before := ofInput limit first deframer buffer
      let after := ofInput limit second before.2.1 before.2.2
      (before.1 ++ after.1, after.2) := by
  simp [ofInput, Deframer.run_append, ofEvents_append]

end Arrival

end RadioSnapshot
