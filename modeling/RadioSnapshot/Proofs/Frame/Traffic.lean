import RadioSnapshot.Frame.Transmitter
import RadioSnapshot.Proofs.Frame.Arrival

/-!
# Traffic that keeps to the format

Text without the first magic byte and frames within the limit come through a
deframer as they are, in whatever order they are sent: a byte of text is given out
by itself, a frame with its payload, and nothing is held in the end.
-/

namespace RadioSnapshot

namespace Frame

/-- The largest length that two bytes can declare. -/
def maxDeclared : Nat := 0xFFFF

theorem declaredLength_le (high low : UInt8) : declaredLength high low ≤ maxDeclared := by
  have highBound := high.toNat_lt
  have lowBound := low.toNat_lt
  rw [declaredLength, maxDeclared]
  omega

/-- The bytes of a length declare it. -/
theorem exists_header {length : Nat} (short : length ≤ maxDeclared) :
    ∃ high low : UInt8, header length = [firstMagic, secondMagic, high, low] ∧
      declaredLength high low = length := by
  refine ⟨UInt8.ofNat (length / 256), UInt8.ofNat length, rfl, ?_⟩
  rw [maxDeclared] at short
  simp only [declaredLength, UInt8.toNat_ofNat']
  omega

/-- What a buffer holds stays in front of the frame. -/
theorem encode_of_le {payload : List UInt8} (small : payload.length ≤ maxPayload)
    (buffer : List UInt8) :
    encode payload buffer = (.ok (), buffer ++ (Frame.mk payload).wire) := by
  rw [encode, if_neg (Nat.not_lt.mpr small), List.append_assoc, wire]

theorem encode_of_lt {payload : List UInt8} (large : maxPayload < payload.length)
    (buffer : List UInt8) :
    encode payload buffer = (.error (.payloadTooLarge payload.length maxPayload), buffer) := by
  rw [encode, if_pos large]

end Frame

/-- A stretch of traffic. -/
inductive Segment where
  | text (bytes : List UInt8)
  | frame (payload : List UInt8)
  deriving BEq, DecidableEq, Repr

namespace Segment

variable {limit : Nat}

/-- The bytes of a segment on the wire, as a sender makes them. -/
def encode : Segment → Except FrameError (List UInt8)
  | .text bytes => .ok bytes
  | .frame payload =>
      match Frame.encode payload [] with
      | (.ok (), bytes) => .ok bytes
      | (.error error, _) => .error error

/-- Text does not begin a frame, and a frame is within the limits of both ends. -/
def Clear (limit : Nat) : Segment → Prop
  | .text bytes => Frame.firstMagic ∉ bytes
  | .frame payload => payload.length ≤ min Frame.maxPayload limit

def wire : Segment → List UInt8
  | .text bytes => bytes
  | .frame payload => (Frame.mk payload).wire

/-- What a deframer gives out for a segment. -/
def events : Segment → List Deframer.Event
  | .text bytes => bytes.map fun byte => .stray [byte]
  | .frame payload => [.frame ⟨payload⟩]

/-- The payload of a segment, if it is a frame. -/
def payload? : Segment → Option (List UInt8)
  | .text _ => none
  | .frame payload => some payload

/-- The text of a segment. -/
def textBytes : Segment → List UInt8
  | .text bytes => bytes
  | .frame _ => []

theorem Clear.encode_eq {segment : Segment} (clear : segment.Clear limit) :
    segment.encode = .ok segment.wire := by
  cases segment with
  | text bytes => rfl
  | frame payload =>
      have small : payload.length ≤ Frame.maxPayload :=
        Nat.le_trans clear (Nat.min_le_left _ _)
      simp only [encode, Frame.encode_of_le small, List.nil_append, wire]

/-- Every byte of such text is a token. -/
theorem exists_text_tokens {bytes : List UInt8} (clear : Frame.firstMagic ∉ bytes) :
    ∃ tokens : List (Token limit), tokens.flatMap Token.wire = bytes ∧
      tokens.map Token.event = bytes.map fun byte => Deframer.Event.stray [byte] := by
  induction bytes with
  | nil => exact ⟨[], rfl, rfl⟩
  | cons byte bytes ih =>
      rw [List.mem_cons, not_or] at clear
      obtain ⟨tokens, wires, events⟩ := ih clear.2
      refine ⟨.plain byte (Ne.symm clear.1) :: tokens, ?_, ?_⟩
      · simp [Token.wire, wires]
      · simp [Token.event, Token.wire, events]

/-- A frame within the limits is one token. -/
theorem exists_frame_token {payload : List UInt8}
    (small : payload.length ≤ min Frame.maxPayload limit) :
    ∃ token : Token limit, token.wire = (Frame.mk payload).wire ∧
      token.event = .frame ⟨payload⟩ := by
  have declarable : payload.length ≤ Frame.maxDeclared := by
    rw [Frame.maxPayload] at small
    rw [Frame.maxDeclared]
    omega
  obtain ⟨high, low, header, declared⟩ := Frame.exists_header declarable
  have fits : Frame.declaredLength high low ≤ limit := by omega
  refine ⟨.frame high low payload fits declared.symm, ?_, rfl⟩
  rw [Frame.wire, header]
  rfl

theorem Clear.exists_tokens {segment : Segment} (clear : segment.Clear limit) :
    ∃ tokens : List (Token limit), tokens.flatMap Token.wire = segment.wire ∧
      tokens.map Token.event = segment.events := by
  cases segment with
  | text bytes => exact exists_text_tokens clear
  | frame payload =>
      obtain ⟨token, wire, event⟩ := exists_frame_token clear
      exact ⟨[token], by simp [wire, Segment.wire], by simp [event, Segment.events]⟩

theorem exists_tokens {segments : List Segment}
    (clear : ∀ segment ∈ segments, segment.Clear limit) :
    ∃ tokens : List (Token limit),
      tokens.flatMap Token.wire = segments.flatMap wire ∧
      tokens.map Token.event = segments.flatMap events := by
  induction segments with
  | nil => exact ⟨[], rfl, rfl⟩
  | cons segment segments ih =>
      rw [List.forall_mem_cons] at clear
      obtain ⟨tokens, wires, events⟩ := clear.1.exists_tokens
      obtain ⟨others, otherWires, otherEvents⟩ := ih clear.2
      refine ⟨tokens ++ others, ?_, ?_⟩
      · rw [List.flatMap_append, wires, otherWires, List.flatMap_cons]
      · rw [List.map_append, events, otherEvents, List.flatMap_cons]

/-- A sender makes the bytes of segments one after the other. -/
theorem mapM_encode {segments : List Segment}
    (clear : ∀ segment ∈ segments, segment.Clear limit) :
    segments.mapM encode = .ok (segments.map wire) := by
  induction segments with
  | nil => rfl
  | cons segment segments ih =>
      rw [List.forall_mem_cons] at clear
      rw [List.mapM_cons, clear.1.encode_eq, ih clear.2]
      rfl

theorem frames_events (segments : List Segment) :
    Deframer.Event.frames (segments.flatMap events) =
      (segments.filterMap payload?).map Frame.mk := by
  induction segments with
  | nil => rfl
  | cons segment segments ih =>
      rw [Deframer.Event.frames] at ih ⊢
      rw [List.flatMap_cons, List.filterMap_append, ih]
      cases segment with
      | text bytes =>
          simp [events, payload?, List.filterMap_cons, List.filterMap_map, Function.comp_def,
            Deframer.Event.frame?]
      | frame payload => simp [events, payload?, Deframer.Event.frame?]

theorem strays_events (segments : List Segment) :
    Deframer.Event.strays (segments.flatMap events) = segments.flatMap textBytes := by
  induction segments with
  | nil => rfl
  | cons segment segments ih =>
      rw [Deframer.Event.strays] at ih ⊢
      rw [List.flatMap_cons, List.flatMap_append, ih, List.flatMap_cons]
      congr 1
      cases segment with
      | text bytes =>
          simp [events, textBytes, List.flatMap_map, Deframer.Event.strayBytes]
      | frame payload => rfl

end Segment

namespace Deframer

/-- Tokens put into an idle deframer come out as they are. -/
theorem run_idle_tokens {limit : Nat} (tokens : List (Token limit)) :
    Event.emitted (run limit (tokens.flatMap Token.wire) .idle).1 =
      tokens.map Token.event ∧
      (run limit (tokens.flatMap Token.wire) .idle).2 = .idle := by
  obtain ⟨found, events, wires, viable⟩ :=
    @exists_tokens_run limit .idle trivial (tokens.flatMap Token.wire)
  have same := Tokenisation.unique
    ⟨found, _, wires, unfinished_held viable⟩
    ⟨tokens, [], List.append_nil _, fun nonempty => absurd rfl nonempty⟩
  have sameTokens : found = tokens := congrArg Tokenisation.tokens same
  have nothingHeld : (run limit (tokens.flatMap Token.wire) .idle).2.held = [] :=
    congrArg Tokenisation.rest same
  constructor
  · rw [events, sameTokens]
  · cases state : (run limit (tokens.flatMap Token.wire) .idle).2 with
    | idle => rfl
    | started | magic | length | body => simp [state, held] at nothingHeld

/-- The frames among events are those among the events that give something out. -/
theorem Event.frames_emitted (events : List Event) : frames (emitted events) = frames events := by
  induction events with
  | nil => rfl
  | cons event events ih => cases event <;> simp_all [emitted, frames, frame?, List.filterMap_cons]

theorem Event.strays_emitted (events : List Event) : strays (emitted events) = strays events := by
  induction events with
  | nil => rfl
  | cons event events ih => cases event <;> simp_all [emitted, strays, strayBytes]

/-- Segments put into an idle deframer come out as they are. -/
theorem run_idle_segments {limit : Nat} {segments : List Segment}
    (clear : ∀ segment ∈ segments, segment.Clear limit) :
    Event.emitted (run limit (segments.flatMap Segment.wire) .idle).1 =
      segments.flatMap Segment.events ∧
      (run limit (segments.flatMap Segment.wire) .idle).2 = .idle := by
  obtain ⟨tokens, wires, events⟩ := Segment.exists_tokens clear
  rw [← wires, ← events]
  exact run_idle_tokens tokens

theorem frames_run_idle_segments {limit : Nat} {segments : List Segment}
    (clear : ∀ segment ∈ segments, segment.Clear limit) :
    Event.frames (run limit (segments.flatMap Segment.wire) .idle).1 =
      (segments.filterMap Segment.payload?).map Frame.mk := by
  rw [← Event.frames_emitted, (run_idle_segments clear).1, Segment.frames_events]

theorem strays_run_idle_segments {limit : Nat} {segments : List Segment}
    (clear : ∀ segment ∈ segments, segment.Clear limit) :
    Event.strays (run limit (segments.flatMap Segment.wire) .idle).1 =
      segments.flatMap Segment.textBytes := by
  rw [← Event.strays_emitted, (run_idle_segments clear).1, Segment.strays_events]

end Deframer

end RadioSnapshot
