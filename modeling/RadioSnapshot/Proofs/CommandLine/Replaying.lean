import RadioSnapshot.CommandLine.Program
import RadioSnapshot.Proofs.Session.Completion
import RadioSnapshot.Proofs.Session.Independence

/-!
# Replaying from the command line

A recording that can be read is always reported on. The options decide how the report is
printed and whether a report on a snapshot that is not whole is a failure, and nothing
else.
-/

namespace RadioSnapshot

open Radio

variable {σ κ τ : Type}

/-- The time that a replay takes is told in its report and has no other effect. -/
theorem replay_elapsed {codec : Codec} {source : FiniteSource σ} {sink : LineSink τ}
    {recording : σ} {console : τ} {elapsed : Duration} {report : Report}
    (given : (replay codec source sink recording console elapsed).1 = .ok report)
    (time : Duration) :
    replay codec source sink recording console time =
      (.ok { report with elapsed := time },
        (replay codec source sink recording console elapsed).2) := by
  simp only [replay] at given ⊢
  generalize (Exchange.start .standard recording console).follow codec source sink.counted
    sink.uncounted = followed at given ⊢
  obtain ⟨stop, exchange⟩ := followed
  dsimp only [Stop.replayed] at given ⊢
  split at given
  next => cases given; rfl
  next => cases given; rfl
  next => cases given; rfl
  next => cases given

/-- A recording that can be read is reported on. -/
theorem exists_report_of_readable (codec : Codec) (sink : LineSink τ) {recording : Device}
    (readable : recording.Readable) (console : τ) (elapsed : Duration) :
    ∃ report, (replay codec .stream sink recording console elapsed).1 = .ok report := by
  obtain ⟨bytes, ending, ended, transcript⟩ :=
    FiniteSource.transcript_of_readable (Nat.le_max_right _ 1) readable
  rw [replay_eq, Receiver.room, transcript recording.reads, reference]
  cases codec.firstResolved? (Arrival.frames (Arrival.ofBytes bytes)) with
  | some count => exact ⟨_, rfl⟩
  | none => rcases ended with rfl | rfl <;> exact ⟨_, rfl⟩

/-- One piece of data can be read. -/
theorem Device.readable_data (bytes : List UInt8) : (ofScript [.data bytes]).Readable := by
  simp [Readable, ofScript]

/-- A report is called complete exactly when its snapshot is whole, and the program that
replays a recording tells so if it is asked to. -/
theorem complete_iff_whole :
    (∀ {σ τ : Type} (codec : Codec) (source : FiniteSource σ) (sink : LineSink τ) (recording : σ)
      (console : τ) (elapsed : Duration) (report : Report),
      (replay codec source sink recording console elapsed).1 = .ok report →
      (report.isComplete = true ↔ report.snapshot.Whole)) ∧
    (∀ {σ κ τ : Type} (setup : SessionSetup σ κ τ) (source : σ) (link : κ) (console : τ)
      (events : List SessionEvent) (session : Session σ κ τ) (report : Report),
      Session.Run setup (.start setup.settings source link console) events session →
      session.phase = .ended (.ok report) →
      (report.isComplete = true ↔ report.snapshot.Whole)) ∧
    (∀ (format : ReportFormat) (command : ReplayCommand) (surroundings : Surroundings)
      (recording : Device), surroundings.recording = .ok recording → recording.Readable →
      ∃ report : Report, ∀ (required : Bool) (time : Duration),
        let done := Program.run
          (.run format (.replay { command with requireComplete := required }))
          { surroundings with replayTime := time }
        (replay .envelope .stream .collect recording [] time).1 =
            .ok { report with elapsed := time } ∧
          done.output = Program.print format { report with elapsed := time } ∧
          (done.code.number = 60 ↔ required = true ∧ ¬ report.snapshot.Whole) ∧
          (done.code.number ≠ 60 → done.code.number = 0)) := by
  refine ⟨?_, ?_, ?_⟩
  · intro σ τ codec source sink recording console elapsed report given
    exact replay_truthful given
  · intro σ κ τ setup source link console events session report run ended
    exact Session.run_truthful run ended
  · intro format command surroundings recording found readable
    obtain ⟨report, given⟩ := exists_report_of_readable .envelope .collect readable [] .zero
    have truthful : report.isComplete = true ↔ report.snapshot.Whole := replay_truthful given
    refine ⟨report, fun required time => ?_⟩
    have timed := replay_elapsed given time
    have told : ({ report with elapsed := time } : Report).isComplete = report.isComplete := rfl
    simp only [Program.run, Program.runReplay, found, timed, Program.finish, told, true_and]
    rw [← truthful]
    cases required <;> cases report.isComplete <;> simp [ExitCode.number]

/-- The sample, as a recording, from a radio, and as a recording that breaks off before the
radio has said that it sent everything. -/
theorem complete_iff_whole_sample :
    (∃ report, (replay .envelope .stream .collect (.ofScript [.data sampleRecording]) []
        .zero).1 = .ok report ∧ report.snapshot.Whole) ∧
    (∃ (events : List SessionEvent) (session : Session Device Recorder (List String))
        (report : Report),
      Session.Run (Session.sampleSetup .standard .collect)
        (.start .standard (.ofScript [.data sampleRecording]) ⟨[], none⟩ []) events session ∧
      session.phase = .ended (.ok report) ∧ report.snapshot.Whole) ∧
    ∃ report : Report, ¬ report.snapshot.Whole ∧ ∀ required,
      let done := Program.run (.run .pretty (.replay ⟨"capture", false, required⟩))
        ⟨[], .ok (.ofScript [.data (sampleRecording.take 24)]), .error .closed, .zero⟩
      done.output = Program.print .pretty { report with elapsed := .zero } ∧
      done.code.number = if required then 60 else 0 := by
  refine ⟨?_, ?_, ?_⟩
  · obtain ⟨report, given⟩ := exists_report_of_readable .envelope .collect
      (Device.readable_data sampleRecording) [] .zero
    have completed : (replay .envelope .stream .collect (.ofScript [.data sampleRecording]) []
        .zero).1.toOption.map Report.isComplete = some true := by
      decide +kernel
    rw [given] at completed
    exact ⟨report, given, (complete_iff_whole.1 _ _ _ _ _ _ report given).mp
      (Option.some.inj completed)⟩
  · obtain ⟨events, session, report, run, ended, outcome, _⟩ :=
      Session.exists_run_sample .standard .collect .completed ⟨3, 0, 0, 1⟩ (by decide +kernel)
    have completed : report.isComplete = true := by rw [Report.isComplete, outcome]; rfl
    exact ⟨events, session, report, run, ended,
      (complete_iff_whole.2.1 _ _ _ _ _ _ report run ended).mp completed⟩
  · obtain ⟨report, told⟩ := complete_iff_whole.2.2 .pretty ⟨"capture", false, false⟩
      ⟨[], .ok (.ofScript [.data (sampleRecording.take 24)]), .error .closed, .zero⟩ _ rfl
      (Device.readable_data _)
    have refused : (Program.run (.run .pretty (.replay ⟨"capture", false, true⟩))
        ⟨[], .ok (.ofScript [.data (sampleRecording.take 24)]), .error .closed,
          .zero⟩).code.number = 60 := by
      decide +kernel
    have partly := ((told true .zero).2.2.1.mp refused).2
    refine ⟨report, partly, fun required => ⟨(told required .zero).2.1, ?_⟩⟩
    cases required with
    | true => exact refused
    | false =>
        exact (told false .zero).2.2.2 fun failed => by
          have asked := ((told false .zero).2.2.1.mp failed).1
          cases asked

end RadioSnapshot
