import RadioSnapshot.Duration
import RadioSnapshot.Snapshot.Basic

/-!
# Session reports

A report says what a session learned about the radio, how the session ended and
what went over the link.
-/

namespace RadioSnapshot

/-- How a session ended. -/
inductive Outcome where
  /-- The snapshot is resolved. -/
  | completed
  /-- The time was over. -/
  | timedOut
  /-- A recording came to its end. -/
  | endOfInput
  deriving BEq, DecidableEq, Repr

/-- The name of an outcome in JSON. -/
def Outcome.name : Outcome → String
  | .completed => "completed"
  | .timedOut => "timed_out"
  | .endOfInput => "end_of_input"

/-- What a session counts. -/
structure Stats where
  /-- Frames received. -/
  frames : Nat
  /-- Frames whose payload is no message. -/
  decodeFailures : Nat
  /-- Messages that had no effect on the snapshot. -/
  ignoredMessages : Nat
  /-- Console lines taken by the sink. -/
  consoleLines : Nat
  deriving BEq, DecidableEq, Repr

def Stats.zero : Stats := ⟨0, 0, 0, 0⟩

/-- What came of a session. -/
structure Report where
  snapshot : Snapshot
  outcome : Outcome
  stats : Stats
  elapsed : Duration

/-- Whether the snapshot is complete rather than the best there is. -/
def Report.isComplete (report : Report) : Bool :=
  report.outcome == .completed

def Stats.toJson (stats : Stats) : Json :=
  .object
    [ ("frames", .nat stats.frames),
      ("decode_failures", .nat stats.decodeFailures),
      ("ignored_messages", .nat stats.ignoredMessages),
      ("debug_lines", .nat stats.consoleLines) ]

/-- A report as JSON. The time is in milliseconds, as far as 64 bits reach. -/
def Report.toJson (report : Report) : Except JsonError Json := do
  let config ← report.snapshot.toJson
  .ok (.object
    [ ("config", config),
      ("outcome", .string report.outcome.name),
      ("stats", report.stats.toJson),
      ("elapsed_ms", .nat (min report.elapsed.milliseconds 0xFFFFFFFFFFFFFFFF)) ])

end RadioSnapshot
