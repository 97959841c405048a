import RadioSnapshot.Proofs.Session.Interleaving
import RadioSnapshot.Proofs.Session.Recording

/-!
# Reports say whether they are complete

While frames are followed the snapshot is not resolved, and the first frame that resolves it
ends the session. So a report is called complete exactly when its snapshot identifies the
radio and the radio has said that it sent everything, be it that a recording was replayed
or that a radio was listened to.
-/

namespace RadioSnapshot

open Radio SessionEvent

variable {σ κ τ : Type}

/-- The snapshot identifies its radio, and the radio has said that it sent everything. -/
structure Snapshot.Whole (snapshot : Snapshot) : Prop where
  configComplete : snapshot.configComplete = true
  nodeNumber : snapshot.nodeNumber ≠ none
  hardwareId : snapshot.hardwareId ≠ ""

theorem Snapshot.isResolved_iff_whole {snapshot : Snapshot} :
    snapshot.isResolved = true ↔ snapshot.Whole := by
  simp only [isResolved, isReady, Bool.and_eq_true, Bool.not_eq_true', Option.isSome_iff_ne_none,
    String.isEmpty_eq_false_iff]
  constructor
  · rintro ⟨complete, numbered, identified⟩
    exact ⟨complete, numbered, identified⟩
  · intro whole
    exact ⟨whole.configComplete, whole.nodeNumber, whole.hardwareId⟩

/-- The report is called complete exactly when its snapshot is whole. -/
def Report.Truthful (report : Report) : Prop :=
  report.isComplete = true ↔ report.snapshot.Whole

theorem Report.truthful_iff {report : Report} :
    report.Truthful ↔ report.isComplete = report.snapshot.isResolved := by
  rw [Truthful, ← Snapshot.isResolved_iff_whole]
  exact Bool.eq_iff_iff.symm

/-- The report on frames that have resolved the snapshot calls it complete. -/
theorem Radio.Codec.truthful_of_firstResolved? {codec : Codec} {frames : List Frame}
    {count : Nat} (resolved : codec.firstResolved? frames = some count) (lines : Nat)
    (elapsed : Duration) :
    ((Collector.ofFrames codec configRequestId (frames.take count) lines).report .completed
      elapsed).Truthful := by
  obtain ⟨resolves, _, _⟩ := Codec.firstResolved?_eq_some.mp resolved
  rw [Report.truthful_iff]
  exact resolves.symm

/-- The report on frames that have not calls it anything else. -/
theorem Radio.Codec.truthful_of_unresolved {codec : Codec} {frames : List Frame}
    (unresolved : codec.firstResolved? frames = none) {outcome : Outcome}
    (partly : outcome ≠ .completed) (lines : Nat) (elapsed : Duration) :
    ((Collector.ofFrames codec configRequestId frames lines).report outcome elapsed).Truthful := by
  have resolves := Codec.firstResolved?_eq_none.mp unresolved frames.length (Nat.le_refl _)
  rw [List.take_length] at resolves
  rw [Report.truthful_iff]
  have incomplete : (outcome == .completed) = false := by
    cases outcome with
    | completed => exact absurd rfl partly
    | timedOut | endOfInput => rfl
  exact incomplete.trans resolves.symm

theorem replay_truthful {codec : Codec} {source : FiniteSource σ} {sink : LineSink τ}
    {recording : σ} {console : τ} {elapsed : Duration} {report : Report}
    (given : (replay codec source sink recording console elapsed).1 = .ok report) :
    report.Truthful := by
  rw [replay_eq, reference] at given
  generalize source.transcript (Receiver.new .standard).room recording = transcript at given
  cases found : codec.firstResolved? (Arrival.frames (Arrival.ofBytes transcript.bytes)) with
  | some count =>
      simp only [found, Except.ok.injEq] at given
      rw [← given, reported, Arrival.gathered, Arrival.frames_through]
      exact Codec.truthful_of_firstResolved? found _ _
  | none =>
      simp only [found] at given
      split at given
      all_goals cases given
      all_goals exact Codec.truthful_of_unresolved found Outcome.noConfusion _ _

theorem Session.run_truthful {setup : SessionSetup σ κ τ} {source : σ} {link : κ} {console : τ}
    {events : List SessionEvent} {session : Session σ κ τ} {report : Report}
    (run : Run setup (.start setup.settings source link console) events session)
    (ended : session.phase = .ended (.ok report)) : report.Truthful := by
  have accounts := (Accounted.run run).accounts
  rw [ended] at accounts
  obtain ⟨lines, elapsed, ⟨resolved, rfl⟩ | ⟨unresolved, rfl⟩⟩ := accounts
  · have truthful := Codec.truthful_of_firstResolved? resolved lines elapsed
    rw [List.take_length] at truthful
    exact truthful
  · exact Codec.truthful_of_unresolved unresolved Outcome.noConfusion lines elapsed

end RadioSnapshot
