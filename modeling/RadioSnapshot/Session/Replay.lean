import RadioSnapshot.Session.Error
import RadioSnapshot.Session.Exchange

/-!
# Replaying recordings

A recording is followed without sending anything. It ends when the snapshot is
resolved or when nothing more comes, be it that the source is at its end or that
it gives no bytes. The lines that the receiver completes are counted on their way to
the console, and those of log records by the collector.
-/

namespace RadioSnapshot

open Radio

/-- An exchange that has not begun, for the request that every session makes. -/
def Exchange.start {σ τ : Type} (limits : ReceiverLimits) (source : σ) (console : τ) :
    Exchange σ (Counted τ) where
  reception := ⟨.new limits, source, ⟨console, 0⟩⟩
  collector := .new configRequestId

/-- The report of an exchange that is over. The two counts of lines are added up. -/
def Exchange.report {σ τ : Type} (outcome : Outcome) (elapsed : Duration)
    (exchange : Exchange σ (Counted τ)) : Report :=
  (exchange.collector.countLines exchange.reception.console.taken).report outcome elapsed

/-- What a replay comes to that stopped in this way. -/
def Stop.replayed {σ τ : Type} (elapsed : Duration) (exchange : Exchange σ (Counted τ)) :
    Stop → Except SessionError Report
  | .resolved => .ok (exchange.report .completed elapsed)
  | .quiet | .failed (.link .closed) => .ok (exchange.report .endOfInput elapsed)
  | .failed error => .error (.frame error)

/-- Replay a recording. The line sink's last state is given out in any case. -/
def replay {σ τ : Type} (codec : Codec) (source : FiniteSource σ) (sink : LineSink τ)
    (recording : σ) (console : τ) (elapsed : Duration) : Except SessionError Report × τ :=
  let (stop, exchange) := (Exchange.start .standard recording console).follow codec source
    sink.counted sink.uncounted
  (stop.replayed elapsed exchange, exchange.reception.console.console)

end RadioSnapshot
