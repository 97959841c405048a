import RadioSnapshot.Console.LineSink
import RadioSnapshot.Frame.Basic
import RadioSnapshot.Session.Report
import RadioSnapshot.Snapshot.Merge
import RadioSnapshot.Text.Blank

/-!
# Collecting frames

The collector turns frames into a snapshot. Log records of the firmware are not
merged but join the lines of the console; frames that carry no message are
counted and passed over. Lines that go through the collector are counted when the
sink takes them, and those that go past it can be added at the end.
-/

namespace RadioSnapshot

open Radio

/-- The line that a log record is shown as. -/
def Radio.LogRecord.line (record : LogRecord) : String :=
  let text := trimEnd record.text
  if record.source.isEmpty then text else "[" ++ record.source ++ "] " ++ text

/-- A snapshot in the making. -/
structure Collector where
  request : UInt32
  snapshot : Snapshot
  frames : Nat
  decodeFailures : Nat
  ignoredMessages : Nat
  /-- Console lines taken by the sink. -/
  consoleLines : Nat

namespace Collector

/-- Nothing is known yet of the answer to a request. -/
def new (request : UInt32) : Collector :=
  ⟨request, .empty, 0, 0, 0, 0⟩

/-- Offer a console line to the sink, and count it if it is taken. -/
def forward {τ : Type} (sink : LineSink τ) (line : String) (collector : Collector)
    (console : τ) : Collector × τ :=
  let (taken, console) := sink.offer line console
  ({ collector with
      consoleLines :=
        if taken then collector.consoleLines + 1 else collector.consoleLines }, console)

/-- Count lines that went past the collector. -/
def countLines (lines : Nat) (collector : Collector) : Collector :=
  { collector with consoleLines := collector.consoleLines + lines }

/-- Take in a message that is no log record. -/
def merge (message : Message) (collector : Collector) : Collector :=
  let (effect, snapshot) := collector.snapshot.apply collector.request message
  { collector with
    snapshot
    ignoredMessages :=
      if effect = .ignored then collector.ignoredMessages + 1
      else collector.ignoredMessages }

/-- Take in one frame. Log records are offered to the line sink. -/
def receive {τ : Type} (codec : Codec) (sink : LineSink τ) (frame : Frame)
    (collector : Collector) (console : τ) : Collector × τ :=
  let collector := { collector with frames := collector.frames + 1 }
  match codec.decode frame.payload with
  | .error _ => ({ collector with decodeFailures := collector.decodeFailures + 1 }, console)
  | .ok (.logRecord record) => collector.forward sink record.line console
  | .ok message => (collector.merge message, console)

/-- The report of a session that ended so. -/
def report (outcome : Outcome) (elapsed : Duration) (collector : Collector) : Report where
  snapshot := collector.snapshot
  outcome := outcome
  stats :=
    { frames := collector.frames
      decodeFailures := collector.decodeFailures
      ignoredMessages := collector.ignoredMessages
      consoleLines := collector.consoleLines }
  elapsed := elapsed

end Collector

end RadioSnapshot
