import RadioSnapshot.Session.Live

/-!
# Sessions step by step

The link is read by a thread of its own, the reader. It passes frames, and at last the
failure that ends them, through a bounded queue that makes it wait while it is full, and
offers console lines to another one that refuses them while it is full. The session takes
from both queues in any order until the snapshot is resolved, a failure comes out or the
time is over, which it may be at any moment.

Each step is one of the reader or one of the session. Whatever two steps can come next to
each other in either order can do so here, so that the runs are all interleavings of the
two. Of the queues it is assumed that they give out first what was put in first, that
nothing is put into a full one, and that their end shows only when the reader is gone and
they are empty.
-/

namespace RadioSnapshot

open Radio

/-- A bounded queue of frames. A failure to read takes the place of the frame that it
prevented. -/
structure FrameQueue where
  capacity : Nat
  items : List (Except FrameError Frame)
  isOpen : Bool

namespace FrameQueue

/-- A queue has room for at least one frame. -/
def empty (capacity : Nat) : FrameQueue :=
  ⟨max capacity 1, [], true⟩

def HasRoom (queue : FrameQueue) : Prop :=
  queue.items.length < queue.capacity

def put (item : Except FrameError Frame) (queue : FrameQueue) : FrameQueue :=
  { queue with items := queue.items ++ [item] }

/-- Stop listening; items not taken out are lost. -/
def close (queue : FrameQueue) : FrameQueue :=
  { queue with items := [], isOpen := false }

end FrameQueue

/-- What a reader and a session share. -/
structure Queues where
  frames : FrameQueue
  lines : LineQueue

/-- What a reader does next. -/
inductive ReaderPhase where
  /-- Nothing, as it has not been started. -/
  | unstarted
  /-- See whether anybody listens, and look at the bytes held back. -/
  | ready
  /-- Offer these lines, and then read the link. -/
  | reading (lines : List String)
  /-- Offer these lines, and then end the call with this result. -/
  | returning (lines : List String) (result : Except FrameError (Option Frame))
  /-- Put this into the queue, and wait as long as that is full. -/
  | sending (item : Except FrameError Frame)
  /-- Nothing any more; nobody is left to put anything into the queues. -/
  | stopped

namespace ReaderPhase

/-- Behind a call: a frame or a failure is passed on. -/
def afterCall : Except FrameError (Option Frame) → ReaderPhase
  | .ok none => .ready
  | .ok (some frame) => .sending (.ok frame)
  | .error error => .sending (.error error)

/-- Once an item is in the queue: a failure is the last one. -/
def afterSending : Except FrameError Frame → ReaderPhase
  | .ok _ => .ready
  | .error _ => .stopped

end ReaderPhase

/-- The thread that reads the link. -/
structure Reader (σ : Type) where
  receiver : Receiver
  source : σ
  phase : ReaderPhase

/-- What can be told of a step. -/
inductive SessionEvent where
  /-- The receiver was called, with this result. -/
  | called (result : Except FrameError (Option Frame))
  /-- The session wrote the request. -/
  | requested
  /-- The session took this out of the queue of frames. -/
  | took (item : Except FrameError Frame)
  /-- Anything else. -/
  | internal

/-- The steps of a reader. A call of the receiver is cut at the moment of the read, which
may take its time, and at each line that it completes, since the session may make room in
the queue of lines in between. -/
inductive Reader.Step {σ : Type} (read : LinkRead σ) :
    Reader σ → Queues → SessionEvent → Reader σ → Queues → Prop
  /-- Nobody listens any more. -/
  | leave {reader : Reader σ} {queues : Queues} (ready : reader.phase = .ready)
      (deaf : queues.frames.isOpen = false) :
      Step read reader queues .internal { reader with phase := .stopped } queues
  /-- The bytes held back complete a frame, and the link is not read. -/
  | find {reader : Reader σ} {queues : Queues} {frame : Frame} {receiver : Receiver}
      {lines : List String} (ready : reader.phase = .ready)
      (listening : queues.frames.isOpen = true)
      (drained : reader.receiver.drainHeld .collect [] = (some frame, receiver, lines)) :
      Step read reader queues (.called (.ok (some frame)))
        { reader with receiver, phase := .returning lines (.ok (some frame)) } queues
  /-- The bytes held back complete no frame. -/
  | miss {reader : Reader σ} {queues : Queues} {receiver : Receiver} {lines : List String}
      (ready : reader.phase = .ready) (listening : queues.frames.isOpen = true)
      (drained : reader.receiver.drainHeld .collect [] = (none, receiver, lines)) :
      Step read reader queues .internal { reader with receiver, phase := .reading lines } queues
  | offerAhead {reader : Reader σ} {queues : Queues} {line : String} {lines : List String}
      (reading : reader.phase = .reading (line :: lines)) :
      Step read reader queues .internal { reader with phase := .reading lines }
        { queues with lines := (queues.lines.offer line).2 }
  | read {reader : Reader σ} {queues : Queues} {result : Except FrameError (Option Frame)}
      {receiver : Receiver} {source : σ} {lines : List String}
      (reading : reader.phase = .reading [])
      (come : Reception.readOn read .collect ⟨reader.receiver, reader.source, []⟩ =
        (result, ⟨receiver, source, lines⟩)) :
      Step read reader queues (.called result) ⟨receiver, source, .returning lines result⟩ queues
  | offer {reader : Reader σ} {queues : Queues} {line : String} {lines : List String}
      {result : Except FrameError (Option Frame)}
      (returning : reader.phase = .returning (line :: lines) result) :
      Step read reader queues .internal { reader with phase := .returning lines result }
        { queues with lines := (queues.lines.offer line).2 }
  | finish {reader : Reader σ} {queues : Queues} {result : Except FrameError (Option Frame)}
      (returning : reader.phase = .returning [] result) :
      Step read reader queues .internal { reader with phase := .afterCall result } queues
  | send {reader : Reader σ} {queues : Queues} {item : Except FrameError Frame}
      (sending : reader.phase = .sending item) (listening : queues.frames.isOpen = true)
      (room : queues.frames.HasRoom) :
      Step read reader queues .internal { reader with phase := .afterSending item }
        { queues with frames := queues.frames.put item }
  /-- Nobody listens any more, so that nobody is waited for either. -/
  | giveUp {reader : Reader σ} {queues : Queues} {item : Except FrameError Frame}
      (sending : reader.phase = .sending item) (deaf : queues.frames.isOpen = false) :
      Step read reader queues .internal { reader with phase := .stopped } queues

/-- How far a session is. -/
inductive SessionPhase where
  /-- The radio is to be woken. -/
  | waking
  /-- The reader is to be started. -/
  | starting
  /-- The radio settles before the request. -/
  | settling
  /-- The request is out. Lines are asked for until their queue has come to its end. -/
  | following (asksLines : Bool)
  | ended (result : Except SessionError Report)

/-- A session with its reader, the queues between them and what it acts on. -/
structure Session (σ κ τ : Type) where
  phase : SessionPhase
  transmitter : Transmitter κ
  reader : Reader σ
  queues : Queues
  collector : Collector
  console : τ

/-- What a session is run with. -/
structure SessionSetup (σ κ τ : Type) where
  settings : SessionSettings
  codec : Codec
  outlet : ByteSink κ
  read : LinkRead σ
  sink : LineSink τ

/-- A session that has not begun. -/
def Session.start {σ κ τ : Type} (settings : SessionSettings) (source : σ) (link : κ)
    (console : τ) : Session σ κ τ where
  phase := .waking
  transmitter := .new link
  reader := ⟨.new .standard, source, .unstarted⟩
  queues := ⟨.empty settings.frameQueue, .empty settings.lineQueue⟩
  collector := .new configRequestId
  console := console

/-- The steps of a session and its reader. The time is left open: the deadline may come
at any step once the request is out, and a report may give any time. -/
inductive Session.Step {σ κ τ : Type} (setup : SessionSetup σ κ τ) :
    Session σ κ τ → SessionEvent → Session σ κ τ → Prop
  | reader {session : Session σ κ τ} {event : SessionEvent} {reader : Reader σ}
      {queues : Queues}
      (step : Reader.Step setup.read session.reader session.queues event reader queues) :
      Step setup session event { session with reader, queues }
  | wake {session : Session σ κ τ} {transmitter : Transmitter κ}
      (waking : session.phase = .waking)
      (woken : wakeRadio setup.settings setup.outlet session.transmitter =
        (.ok (), transmitter)) :
      Step setup session .internal { session with phase := .starting, transmitter }
  | wakeFails {session : Session σ κ τ} {transmitter : Transmitter κ} {error : FrameError}
      (waking : session.phase = .waking)
      (woken : wakeRadio setup.settings setup.outlet session.transmitter =
        (.error error, transmitter)) :
      Step setup session .internal
        { session with phase := .ended (.error (.frame error)), transmitter }
  | startReader {session : Session σ κ τ} (starting : session.phase = .starting) :
      Step setup session .internal
        { session with phase := .settling, reader := { session.reader with phase := .ready } }
  | startFails {session : Session σ κ τ} (starting : session.phase = .starting)
      (error : IoError) :
      Step setup session .internal
        { session with phase := .ended (.error (.readerStart error)) }
  | ask {session : Session σ κ τ} {transmitter : Transmitter κ}
      (settling : session.phase = .settling)
      (asked : askRadio setup.codec setup.outlet session.transmitter = (.ok (), transmitter)) :
      Step setup session .requested { session with phase := .following true, transmitter }
  | askFails {session : Session σ κ τ} {transmitter : Transmitter κ} {error : FrameError}
      (settling : session.phase = .settling)
      (asked : askRadio setup.codec setup.outlet session.transmitter =
        (.error error, transmitter)) :
      Step setup session .internal
        { session with phase := .ended (.error (.frame error)), transmitter }
  | receive {session : Session σ κ τ} {asksLines : Bool} {frame : Frame}
      {rest : List (Except FrameError Frame)} {collector : Collector} {console : τ}
      (following : session.phase = .following asksLines)
      (waiting : session.queues.frames.items = .ok frame :: rest)
      (taken : session.collector.receive setup.codec setup.sink frame session.console =
        (collector, console))
      (unresolved : collector.snapshot.isResolved = false) :
      Step setup session (.took (.ok frame))
        { session with
          queues.frames.items := rest
          collector, console }
  | complete {session : Session σ κ τ} {asksLines : Bool} {frame : Frame}
      {rest : List (Except FrameError Frame)} {collector : Collector} {console : τ}
      (following : session.phase = .following asksLines)
      (waiting : session.queues.frames.items = .ok frame :: rest)
      (taken : session.collector.receive setup.codec setup.sink frame session.console =
        (collector, console))
      (resolved : collector.snapshot.isResolved = true) (elapsed : Duration) :
      Step setup session (.took (.ok frame))
        { session with
          phase := .ended (.ok (collector.report .completed elapsed))
          queues.frames.items := rest
          collector, console }
  | fail {session : Session σ κ τ} {asksLines : Bool} {error : FrameError}
      {rest : List (Except FrameError Frame)}
      (following : session.phase = .following asksLines)
      (waiting : session.queues.frames.items = .error error :: rest) :
      Step setup session (.took (.error error))
        { session with
          phase := .ended (.error (.frame error))
          queues.frames.items := rest }
  /-- The queue of frames has come to its end without a failure. -/
  | hangUp {session : Session σ κ τ} {asksLines : Bool}
      (following : session.phase = .following asksLines)
      (nothing : session.queues.frames.items = []) (gone : session.reader.phase = .stopped) :
      Step setup session .internal { session with phase := .ended (.error (.link .closed)) }
  | showLine {session : Session σ κ τ} {line : String} {rest : List String}
      {collector : Collector} {console : τ} (following : session.phase = .following true)
      (waiting : session.queues.lines.lines = line :: rest)
      (shown : session.collector.forward setup.sink line session.console =
        (collector, console)) :
      Step setup session .internal
        { session with
          queues.lines.lines := rest
          collector, console }
  | endLines {session : Session σ κ τ} (following : session.phase = .following true)
      (nothing : session.queues.lines.lines = []) (gone : session.reader.phase = .stopped) :
      Step setup session .internal { session with phase := .following false }
  | timeOut {session : Session σ κ τ} {asksLines : Bool}
      (following : session.phase = .following asksLines) (elapsed : Duration) :
      Step setup session .internal
        { session with
          phase := .ended (.ok (session.collector.report .timedOut elapsed)) }
  | closeFrames {session : Session σ κ τ} {result : Except SessionError Report}
      (ended : session.phase = .ended result) :
      Step setup session .internal
        { session with queues.frames := session.queues.frames.close }
  | closeLines {session : Session σ κ τ} {result : Except SessionError Report}
      (ended : session.phase = .ended result) :
      Step setup session .internal
        { session with queues.lines := session.queues.lines.close }

/-- Steps one after the other, with what can be told of them. -/
inductive Session.Run {σ κ τ : Type} (setup : SessionSetup σ κ τ) (first : Session σ κ τ) :
    List SessionEvent → Session σ κ τ → Prop
  | refl : Run setup first [] first
  | step {events : List SessionEvent} {before after : Session σ κ τ} {event : SessionEvent}
      (run : Run setup first events before) (step : Session.Step setup before event after) :
      Run setup first (events ++ [event]) after

end RadioSnapshot
