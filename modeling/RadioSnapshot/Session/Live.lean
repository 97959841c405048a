import RadioSnapshot.Frame.Transmitter
import RadioSnapshot.Session.Replay

/-!
# Live sessions

A session wakes the radio, waits for it to settle, asks for its configuration and
follows what it sends until the snapshot is resolved or the time is over. The
time counts from the start of the session; while the radio sends, it stands
still.
-/

namespace RadioSnapshot

open Radio

/-- The settings of a session. -/
structure SessionSettings where
  /-- The time for the whole session. -/
  deadline : Duration
  /-- The time between waking the radio and the request. -/
  settle : Duration
  /-- Frames that may wait to be handled. -/
  frameQueue : Nat
  /-- Console lines that may wait to be shown. -/
  lineQueue : Nat
  /-- Whether to wake the radio first. -/
  sendWake : Bool
  deriving BEq, DecidableEq, Repr

def SessionSettings.standard : SessionSettings where
  deadline := .ofSeconds 15
  settle := .ofMilliseconds 100
  frameQueue := 100
  lineQueue := 100
  sendWake := true

/-- What a radio sends in answer to a request, and how the link fails after it,
if it does not just fall silent. -/
structure Answer where
  bytes : List UInt8
  failure : Option LinkError
  deriving BEq, DecidableEq, Repr

namespace Answer

def read (room : Nat) (answer : Answer) : Except LinkError (List UInt8) × Answer :=
  if answer.bytes.isEmpty then
    match answer.failure with
    | none => (.ok [], answer)
    | some error => (.error error, answer)
  else (.ok (answer.bytes.take room), { answer with bytes := answer.bytes.drop room })

end Answer

def FiniteSource.answer : FiniteSource Answer where
  read := Answer.read
  supply answer := answer.bytes.length
  length_le_room room answer data next read := by
    simp only [Answer.read] at read
    split at read
    · split at read <;> simp_all
    · simp only [Prod.mk.injEq, Except.ok.injEq] at read
      rw [← read.1, List.length_take]
      omega
  supply_read room answer data next read := by
    simp only [Answer.read] at read
    split at read
    · split at read <;> simp_all
    · simp only [Prod.mk.injEq, Except.ok.injEq] at read
      obtain ⟨rfl, rfl⟩ := read
      simp only [List.length_take, List.length_drop]
      omega

/-- Wake the radio, if that is asked for. -/
def wakeRadio {κ : Type} (settings : SessionSettings) (outlet : ByteSink κ)
    (transmitter : Transmitter κ) : Except FrameError Unit × Transmitter κ :=
  if settings.sendWake then transmitter.wake outlet else (.ok (), transmitter)

/-- Ask the radio for its configuration. -/
def askRadio {κ : Type} (codec : Codec) (outlet : ByteSink κ) (transmitter : Transmitter κ) :
    Except FrameError Unit × Transmitter κ :=
  transmitter.send outlet (codec.encodeRequest configRequestId)

/-- Wake the radio and ask for its configuration. -/
def sendRequest {κ : Type} (settings : SessionSettings) (codec : Codec)
    (outlet : ByteSink κ) (transmitter : Transmitter κ) :
    Except FrameError Unit × Transmitter κ :=
  match wakeRadio settings outlet transmitter with
  | (.error error, transmitter) => (.error error, transmitter)
  | (.ok (), transmitter) => askRadio codec outlet transmitter

/-- Run a session with a radio. When the deadline has passed before the request
is out, nothing of the answer is awaited. -/
def runSession {κ σ τ : Type} (settings : SessionSettings) (codec : Codec)
    (outlet : ByteSink κ) (source : FiniteSource σ) (sink : LineSink τ)
    (link : κ) (radio : σ) (console : τ) : Except SessionError Report × κ × τ :=
  match sendRequest settings codec outlet (.new link) with
  | (.error error, transmitter) => (.error (.frame error), transmitter.link, console)
  | (.ok (), transmitter) =>
      let start := Exchange.start .standard radio console
      let timedOut := settings.settle.longer settings.deadline
      if settings.deadline.nanoseconds ≤ settings.settle.nanoseconds then
        (.ok (start.report .timedOut timedOut), transmitter.link, console)
      else
        let (stop, exchange) := start.follow codec source sink.counted sink.uncounted
        let result :=
          match stop with
          | .resolved => .ok (exchange.report .completed settings.settle)
          | .quiet => .ok (exchange.report .timedOut timedOut)
          | .failed error => .error (.frame error)
        (result, transmitter.link, exchange.reception.console.console)

end RadioSnapshot
