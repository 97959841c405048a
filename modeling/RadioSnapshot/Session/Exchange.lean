import RadioSnapshot.Frame.Receiver
import RadioSnapshot.Session.Collector

/-!
# Following a source

An exchange takes frames from a source into a collector until the snapshot is
resolved, the source has nothing to give, or it fails. Recordings and live radios
are both followed in this way; they differ in what the end means. The lines that
the receiver completes and those of log records may go to the console in different
ways.
-/

namespace RadioSnapshot

open Radio

/-- How a source stopped being followed. -/
inductive Stop where
  | resolved
  /-- The source gave no bytes. -/
  | quiet
  | failed (error : FrameError)
  deriving BEq, DecidableEq, Repr

/-- A reception that feeds a collector. -/
structure Exchange (σ τ : Type) where
  reception : Reception σ τ
  collector : Collector

namespace Reception

variable {σ τ : Type}

/-- The number of bytes read and not looked at, or still to be read. -/
def outstanding (source : FiniteSource σ) (reception : Reception σ τ) : Nat :=
  source.supply reception.source + reception.receiver.held.length

/-- Asking for a frame uses up bytes, unless the source fails or is quiet. -/
theorem outstanding_next_lt {source : FiniteSource σ} {sink : LineSink τ}
    {reception after : Reception σ τ} {found : Option Frame}
    (next : reception.next source sink = (.ok found, after))
    (active : found = none → after.receiver.idle = false) :
    after.outstanding source < reception.outstanding source := by
  simp only [Reception.next, Reception.nextFrom, Reception.readOn] at next
  split at next
  next frame receiver console drained =>
    simp only [Prod.mk.injEq] at next
    obtain ⟨_, rfl⟩ := next
    have shorter := Receiver.length_held_of_drain_some drained
    simp only [outstanding]
    omega
  next receiver console drained =>
    split at next
    next => simp at next
    next data state read =>
      have taken := source.supply_read _ _ _ _ read
      split at next
      next empty =>
        simp only [Prod.mk.injEq, Except.ok.injEq] at next
        obtain ⟨rfl, rfl⟩ := next
        simp at active
      next nonempty =>
        have positive : 0 < data.length := by
          cases data with
          | nil => simp at nonempty
          | cons => simp
        simp only [Prod.mk.injEq, Except.ok.injEq] at next
        obtain ⟨rfl, rfl⟩ := next
        simp only [outstanding]
        cases inner : Receiver.drain sink data { receiver with idle := false } console with
        | mk found rest =>
            obtain ⟨drainedReceiver, drainedConsole⟩ := rest
            cases found with
            | some frame =>
                have shorter := Receiver.length_held_of_drain_some inner
                simp only
                omega
            | none =>
                have none_left := Receiver.held_of_drain_none inner
                simp only [none_left, List.length_nil]
                omega

end Reception

namespace Exchange

variable {σ τ : Type}

/-- Follow a source for as long as it gives anything. -/
def follow (codec : Codec) (source : FiniteSource σ) (text records : LineSink τ)
    (exchange : Exchange σ τ) : Stop × Exchange σ τ :=
  match _step : exchange.reception.next source text with
  | (.error error, reception) => (.failed error, { exchange with reception })
  | (.ok none, reception) =>
      if _idle : reception.receiver.idle then (.quiet, { exchange with reception })
      else follow codec source text records { exchange with reception }
  | (.ok (some frame), reception) =>
      let taken := exchange.collector.receive codec records frame reception.console
      let next : Exchange σ τ := ⟨{ reception with console := taken.2 }, taken.1⟩
      if taken.1.snapshot.isResolved then (.resolved, next)
      else follow codec source text records next
termination_by exchange.reception.outstanding source
decreasing_by
  · exact Reception.outstanding_next_lt _step fun _ => by simpa using _idle
  · have shorter : reception.outstanding source < _ :=
      Reception.outstanding_next_lt _step (by simp)
    exact shorter

end Exchange

end RadioSnapshot
