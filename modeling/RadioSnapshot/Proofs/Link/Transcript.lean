import RadioSnapshot.Proofs.Frame.Delivery

/-!
# Transcripts of sources

A source that is read over and over gives bytes until it is quiet or fails for the
first time. What it gave until then, and how it stopped, is its transcript; into
which pieces the bytes were cut is not part of it.
-/

namespace RadioSnapshot

variable {σ : Type}

/-- How a source stops. -/
inductive Ending where
  | quiet
  | failed (error : LinkError)
  deriving BEq, DecidableEq, Repr

/-- The bytes that a source gives until it stops for the first time. -/
structure Transcript where
  bytes : List UInt8
  ending : Ending
  deriving BEq, DecidableEq, Repr

/-- Bytes in front of others. -/
def Transcript.prepend (bytes : List UInt8) (transcript : Transcript) : Transcript :=
  { transcript with bytes := bytes ++ transcript.bytes }

namespace FiniteSource

def transcript (source : FiniteSource σ) (room : Nat) (state : σ) : Transcript :=
  match _read : source.read room state with
  | (.error error, _) => ⟨[], .failed error⟩
  | (.ok [], _) => ⟨[], .quiet⟩
  | (.ok (byte :: data), next) => (source.transcript room next).prepend (byte :: data)
termination_by source.supply state
decreasing_by
  have taken := source.supply_read _ _ _ _ _read
  simp only [List.length_cons] at taken
  omega

section

variable {source : FiniteSource σ} {room : Nat} {state next : σ}

theorem transcript_of_error {error : LinkError}
    (read : source.read room state = (.error error, next)) :
    source.transcript room state = ⟨[], .failed error⟩ := by
  rw [transcript]
  split <;> simp_all

theorem transcript_of_nothing (read : source.read room state = (.ok [], next)) :
    source.transcript room state = ⟨[], .quiet⟩ := by
  rw [transcript]
  split <;> simp_all

theorem transcript_of_data {data : List UInt8} (some : data ≠ [])
    (read : source.read room state = (.ok data, next)) :
    source.transcript room state = (source.transcript room next).prepend data := by
  rw [transcript]
  split <;> simp_all

/-- States that are read alike have the same transcript. -/
theorem transcript_congr {other : σ} (alike : source.read room state = source.read room other) :
    source.transcript room state = source.transcript room other := by
  rcases read : source.read room other with ⟨error | data, next⟩
  · rw [transcript_of_error read, transcript_of_error (alike.trans read)]
  · cases data with
    | nil => rw [transcript_of_nothing read, transcript_of_nothing (alike.trans read)]
    | cons byte data =>
        have some : byte :: data ≠ [] := List.cons_ne_nil byte data
        rw [transcript_of_data some read, transcript_of_data some (alike.trans read)]

end

/-- A source goes on over bytes, and a stream over interruptions. -/
def GoesOn (source : FiniteSource Device) : ReadEvent → Prop
  | .data bytes => bytes ≠ []
  | .failure error => source = .stream ∧ error.kind = .interrupted

namespace Scripted

variable {source : FiniteSource Device}

/-- A piece of data is read up to the room that there is. -/
theorem read_piece (scripted : source.Scripted) {room : Nat} (positive : 0 < room)
    {bytes : List UInt8} (some : bytes ≠ []) (rest : List ReadEvent) (reads : Nat) :
    source.read room ⟨.data bytes :: rest, reads⟩ =
      (.ok (bytes.take room),
        ⟨if (bytes.drop room).isEmpty then rest else .data (bytes.drop room) :: rest,
          reads + 1⟩) := by
  rcases scripted with rfl | rfl
  · rfl
  · simp [FiniteSource.stream, Device.readStream, Device.isInterruption, Device.readScript, some,
      Nat.ne_of_gt positive]

theorem read_interruption {error : IoError} (interrupted : error.kind = .interrupted)
    (room : Nat) (rest : List ReadEvent) (reads : Nat) :
    FiniteSource.stream.read room ⟨.failure error :: rest, reads⟩ =
      FiniteSource.stream.read room ⟨rest, reads + 1⟩ := by
  have shorter := (List.dropWhile_suffix (l := rest) Device.isInterruption).length_le
  have counted : reads + (rest.length + 1 - (rest.dropWhile Device.isInterruption).length) + 1 =
      reads + 1 + (rest.length - (rest.dropWhile Device.isInterruption).length) + 1 := by
    omega
  have skipped : (.failure error :: rest).dropWhile Device.isInterruption =
      rest.dropWhile Device.isInterruption := by
    apply List.dropWhile_cons_of_pos
    rw [Device.isInterruption, interrupted]
    rfl
  simp only [FiniteSource.stream, Device.readStream, skipped, List.length_cons, counted]

/-- A piece of data, read in as many reads as it takes. -/
theorem transcript_piece (scripted : source.Scripted) {room : Nat} (positive : 0 < room)
    {bytes : List UInt8} (some : bytes ≠ []) {rest : List ReadEvent} {after : Transcript}
    (follows : ∀ reads, source.transcript room ⟨rest, reads⟩ = after) (reads : Nat) :
    source.transcript room ⟨.data bytes :: rest, reads⟩ = after.prepend bytes := by
  have taken : bytes.take room ≠ [] := by
    simp [some, Nat.ne_of_gt positive]
  rw [transcript_of_data taken (scripted.read_piece positive some rest reads)]
  by_cases left : bytes.drop room = []
  · have whole : bytes.take room = bytes := by
      simpa [left] using List.take_append_drop room bytes
    rw [if_pos (List.isEmpty_iff.mpr left), follows, whole]
  · have shorter : (bytes.drop room).length < bytes.length := by
      have nonempty := List.length_pos_iff.mpr some
      rw [List.length_drop]
      omega
    rw [if_neg (by simpa [List.isEmpty_iff] using left),
      transcript_piece scripted positive left follows]
    simp [Transcript.prepend, ← List.append_assoc]
termination_by bytes.length

/-- Whatever pieces it comes in, and whatever interruptions a stream has between them,
a script's transcript is its data. -/
theorem transcript_script (scripted : source.Scripted) {room : Nat} (positive : 0 < room)
    {script rest : List ReadEvent} (steady : ∀ event ∈ script, source.GoesOn event)
    {ending : Ending} (stops : ∀ reads, source.transcript room ⟨rest, reads⟩ = ⟨[], ending⟩)
    (reads : Nat) :
    source.transcript room ⟨script ++ rest, reads⟩ = ⟨Device.scriptData script, ending⟩ := by
  induction script generalizing reads with
  | nil => exact stops reads
  | cons event script ih =>
      have others := ih fun other member => steady other (List.mem_cons_of_mem event member)
      have goesOn := steady event List.mem_cons_self
      cases event with
      | data bytes => exact scripted.transcript_piece positive goesOn others reads
      | failure error =>
          obtain ⟨rfl, interrupted⟩ := goesOn
          rw [List.cons_append, transcript_congr (read_interruption interrupted room _ reads)]
          exact others (reads + 1)

/-- At the end of a script, and at a read without bytes, a device is quiet and a stream
is closed. -/
theorem stops_at_end (scripted : source.Scripted) {room : Nat} (positive : 0 < room)
    {rest : List ReadEvent} (ended : rest = [] ∨ ∃ more, rest = .data [] :: more) :
    (∀ reads, source.transcript room ⟨rest, reads⟩ = ⟨[], .quiet⟩) ∨
      ∀ reads, source.transcript room ⟨rest, reads⟩ = ⟨[], .failed .closed⟩ := by
  have nothing : Device.readScript room rest = (.ok [], rest.tail) := by
    rcases ended with rfl | ⟨more, rfl⟩ <;> simp [Device.readScript]
  have ready : rest.dropWhile Device.isInterruption = rest := by
    rcases ended with rfl | ⟨more, rfl⟩ <;> simp [Device.isInterruption]
  rcases scripted with rfl | rfl
  · apply Or.inl
    intro reads
    have read : FiniteSource.direct.read room ⟨rest, reads⟩ =
        (.ok [], ⟨rest.tail, reads + 1⟩) := by
      simp only [FiniteSource.direct, Device.readDirect, nothing]
    exact transcript_of_nothing read
  · apply Or.inr
    intro reads
    have read : FiniteSource.stream.read room ⟨rest, reads⟩ =
        (.error .closed, ⟨rest.tail, reads + 1⟩) := by
      simp [FiniteSource.stream, Device.readStream, ready, nothing, Nat.ne_of_gt positive]
    exact transcript_of_error read

end Scripted

end FiniteSource

/-- Reading the device does not fail, but it may have to be tried again after an
interruption. -/
def Device.Readable (device : Device) : Prop :=
  ∀ error, .failure error ∈ device.script → error.kind = .interrupted

/-- A stream that can be read comes to its end. -/
theorem FiniteSource.transcript_of_readable {room : Nat} (positive : 0 < room) {device : Device}
    (readable : device.Readable) :
    ∃ (bytes : List UInt8) (ending : Ending), (ending = .quiet ∨ ending = .failed .closed) ∧
      ∀ reads, FiniteSource.stream.transcript room { device with reads } = ⟨bytes, ending⟩ := by
  obtain ⟨script, reads⟩ := device
  have scripted : FiniteSource.stream.Scripted := .inr rfl
  have atEnd : ∀ rest : List ReadEvent, (rest = [] ∨ ∃ more, rest = .data [] :: more) →
      ∃ (bytes : List UInt8) (ending : Ending), (ending = .quiet ∨ ending = .failed .closed) ∧
        ∀ reads, FiniteSource.stream.transcript room ⟨rest, reads⟩ = ⟨bytes, ending⟩ := by
    intro rest ended
    rcases scripted.stops_at_end positive ended with quiet | closed
    · exact ⟨[], .quiet, .inl rfl, quiet⟩
    · exact ⟨[], .failed .closed, .inr rfl, closed⟩
  induction script with
  | nil => exact atEnd [] (.inl rfl)
  | cons event script ih =>
      obtain ⟨bytes, ending, ended, others⟩ := ih fun error member =>
        readable error (List.mem_cons_of_mem event member)
      cases event with
      | data piece =>
          by_cases nothing : piece = []
          · exact atEnd _ (.inr ⟨script, by rw [nothing]⟩)
          · exact ⟨piece ++ bytes, ending, ended,
              scripted.transcript_piece positive nothing others⟩
      | failure error =>
          have interrupted := readable error List.mem_cons_self
          refine ⟨bytes, ending, ended, fun reads => ?_⟩
          rw [transcript_congr (Scripted.read_interruption interrupted room _ reads)]
          exact others (reads + 1)

end RadioSnapshot
