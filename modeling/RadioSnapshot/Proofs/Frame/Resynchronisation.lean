import RadioSnapshot.Proofs.Frame.Traffic

/-!
# Getting back into step

A deframer that took text for the beginning of a frame lets go of it again. What a
header can still ask for bounds the number of further bytes that are collected, so
after a long enough run of bytes that begin no frame the deframer is idle, and what
comes then is read as it was sent.
-/

namespace RadioSnapshot

namespace Deframer

variable {limit : Nat}

/-- The largest payload that a header can declare within the limit. -/
def longestPayload (limit : Nat) : Nat :=
  min limit Frame.maxDeclared

/-- How many more bytes, none of them a first magic byte, a deframer may take until
it is idle. -/
def patience (limit : Nat) : Deframer → Nat
  | .idle => 0
  | .started => longestPayload limit + 3
  | .magic => longestPayload limit + 2
  | .length _ => longestPayload limit + 1
  | .body high low _ received => Frame.declaredLength high low - received.size

/-- A deframer with no patience left is idle. -/
theorem eq_idle_of_patience {deframer : Deframer} (viable : deframer.Viable limit)
    (exhausted : deframer.patience limit = 0) : deframer = .idle := by
  cases deframer with
  | idle => rfl
  | started | magic | length => simp [patience] at exhausted
  | body high low target received =>
      obtain ⟨_, _, short⟩ := viable
      rw [patience] at exhausted
      omega

theorem declaredLength_le_longestPayload {high low : UInt8}
    (fits : Frame.declaredLength high low ≤ limit) :
    Frame.declaredLength high low ≤ longestPayload limit :=
  Nat.le_min.mpr ⟨fits, Frame.declaredLength_le high low⟩

/-- No state has more patience than the one behind a first magic byte. -/
theorem patience_le {deframer : Deframer} (viable : deframer.Viable limit) :
    deframer.patience limit ≤ longestPayload limit + 3 := by
  cases deframer with
  | idle | started | magic | length => simp [patience]
  | body high low target received =>
      have bounded := declaredLength_le_longestPayload viable.2.1
      rw [patience]
      omega

theorem viable_push {deframer : Deframer} (viable : deframer.Viable limit) (byte : UInt8) :
    (deframer.push limit byte).2.Viable limit := by
  rcases push_cases viable byte with ⟨next, step, nextViable, _⟩ | ⟨token, step, _⟩
  · rw [step]
    exact nextViable
  · rw [step]
    exact trivial

/-- Every byte that is no first magic byte wears the patience down. -/
theorem patience_push_le {deframer : Deframer} (viable : deframer.Viable limit)
    {byte : UInt8} (other : byte ≠ Frame.firstMagic) :
    (deframer.push limit byte).2.patience limit ≤ deframer.patience limit - 1 := by
  cases deframer with
  | idle => simp [push, other, patience]
  | started =>
      simp only [push]
      split <;> simp [patience]
  | magic => simp [push, patience]
  | length high =>
      simp only [push]
      split
      next => simp [patience]
      next within =>
        have bounded := declaredLength_le_longestPayload (Nat.le_of_not_lt within)
        split
        next => simp [patience]
        next => simpa [patience] using bounded
  | body high low target received =>
      simp only [push]
      split
      next => simp [patience]
      next =>
        simp only [patience, Array.size_push]
        omega

/-- A run of bytes without a first magic byte wears the patience down byte by byte. -/
theorem patience_run_le {deframer : Deframer} (viable : deframer.Viable limit)
    {quiet : List UInt8} (free : Frame.firstMagic ∉ quiet) :
    (run limit quiet deframer).2.Viable limit ∧
      (run limit quiet deframer).2.patience limit ≤
        deframer.patience limit - quiet.length := by
  induction quiet generalizing deframer with
  | nil => exact ⟨viable, Nat.le_refl _⟩
  | cons byte quiet ih =>
      rw [List.mem_cons, not_or] at free
      have first := patience_push_le viable (Ne.symm free.1)
      obtain ⟨lastViable, rest⟩ := ih (viable_push viable byte) free.2
      refine ⟨lastViable, ?_⟩
      simp only [run, List.length_cons]
      omega

/-- Whatever a deframer is in the middle of, a long enough run of bytes without a first
magic byte makes it idle. -/
theorem run_quiet_eq_idle {deframer : Deframer} (viable : deframer.Viable limit)
    {quiet : List UInt8} (free : Frame.firstMagic ∉ quiet)
    (long : longestPayload limit + 3 ≤ quiet.length) :
    (run limit quiet deframer).2 = .idle := by
  obtain ⟨lastViable, worn⟩ := patience_run_le viable free
  have bounded := patience_le viable
  apply eq_idle_of_patience lastViable
  omega

/-- Resynchronisation. After any history, and a run of bytes without a first magic byte
as long as the longest payload and three bytes more, nothing is held. From then on
frames that a sender makes, and text without a first magic byte between them, come out
as they were sent, piece by piece. -/
theorem resynchronised_run (limit : Nat) (history : List UInt8) {quiet : List UInt8}
    (free : Frame.firstMagic ∉ quiet) (long : min limit 0xFFFF + 3 ≤ quiet.length) :
    let settled := (run limit (history ++ quiet) .idle).2
    settled = .idle ∧ settled.buffered = 0 ∧
      ∀ segments : List Segment, (∀ segment ∈ segments, segment.Clear limit) →
        ∃ pieces : List (List UInt8), segments.mapM Segment.encode = .ok pieces ∧
          let read := run limit pieces.flatten settled
          Event.emitted read.1 = segments.flatMap Segment.events ∧
          Event.frames read.1 = (segments.filterMap Segment.payload?).map Frame.mk ∧
          Event.strays read.1 = segments.flatMap Segment.textBytes ∧
          read.2 = .idle := by
  intro settled
  obtain ⟨_, _, _, viable⟩ := @exists_tokens_run limit .idle trivial history
  have idle : settled = .idle := by
    simp only [settled, run_append]
    exact run_quiet_eq_idle viable free long
  refine ⟨idle, by rw [idle]; rfl, ?_⟩
  intro segments clear
  refine ⟨segments.map Segment.wire, Segment.mapM_encode clear, ?_⟩
  rw [idle, ← List.flatMap_def]
  obtain ⟨emitted, last⟩ := run_idle_segments clear
  exact ⟨emitted, frames_run_idle_segments clear, strays_run_idle_segments clear, last⟩

/-- A false header of two bytes swallows the text behind it, which the run of five bytes
makes good; then an empty frame, text and a frame with magic bytes in it are read. -/
theorem resynchronised_run_false_header :
    Frame.firstMagic ∉ [0xC3, 0, 2, 65, 66] ∧
    min 2 0xFFFF + 3 ≤ [(0xC3 : UInt8), 0, 2, 65, 66].length ∧
    (∀ segment ∈ [Segment.frame [], .text [72, 10], .frame [0x94, 0xC3]], segment.Clear 2) ∧
    (run 2 ([7, 0x94] ++ [0xC3, 0, 2, 65, 66]) .idle).2 = .idle ∧
    ∃ pieces, [Segment.frame [], .text [72, 10], .frame [0x94, 0xC3]].mapM Segment.encode =
        .ok pieces ∧
      Event.frames (run 2 pieces.flatten
        (run 2 ([7, 0x94] ++ [0xC3, 0, 2, 65, 66]) .idle).2).1 = [⟨[]⟩, ⟨[0x94, 0xC3]⟩] := by
  have clear : ∀ segment ∈ [Segment.frame [], .text [72, 10], .frame [0x94, 0xC3]],
      segment.Clear 2 := by
    simp [Segment.Clear, Frame.firstMagic, Frame.maxPayload]
  have settled := @resynchronised_run 2 [7, 0x94] [0xC3, 0, 2, 65, 66]
    (by decide) (by decide)
  obtain ⟨pieces, encoded, _, frames, _, _⟩ := settled.2.2 _ clear
  exact ⟨by decide, by decide, clear, settled.1, pieces, encoded, frames⟩

/-- One byte less may not be enough: the false header waits for its last byte. -/
example : (run 2 ([7, 0x94] ++ [0xC3, 0, 2, 65]) .idle).2 = .body 0 2 6 #[65] := by
  decide

end Deframer

end RadioSnapshot
