import RadioSnapshot.Proofs.Session.Interleaving
import RadioSnapshot.Proofs.Session.Recording
import RadioSnapshot.Proofs.Session.Schedule

/-!
# Sessions do not depend on the order of steps

The receiver extracts the same frames whatever else happens, and the session handles them
in their order. Two sessions that complete have therefore handled the same frames, whatever
their queues and consoles are.
-/

namespace RadioSnapshot

open Radio SessionEvent

/-- Frames resolve the snapshot in the same way as more frames do. -/
theorem Radio.Codec.take_eq_of_firstResolved? {codec : Codec} {few many : List Frame}
    (first : few <+: many) {count other : Nat}
    (resolved : codec.firstResolved? few = some count)
    (resolvedToo : codec.firstResolved? many = some other) :
    few.take count = many.take other := by
  obtain ⟨more, rfl⟩ := first
  obtain ⟨_, within, _⟩ := Codec.firstResolved?_eq_some.mp resolved
  rw [Codec.firstResolved?_append resolved, Option.some.injEq] at resolvedToo
  rw [← resolvedToo, List.take_append_of_le_length within]

namespace SessionEvent

variable {σ : Type} {read : LinkRead σ} {source : σ} {events others : List SessionEvent}

/-- Fewer calls of the same receiver extract the first frames of those that more extract. -/
theorem extracted_prefix_of_le
    (calls : (Receiver.extraction read (results events).length (.new .standard) source).1 =
      results events)
    (otherCalls : (Receiver.extraction read (results others).length (.new .standard) source).1 =
      results others)
    (within : (results events).length ≤ (results others).length) :
    extracted events <+: extracted others := by
  have taken := Receiver.extraction_take read within (.new .standard) source
  rw [calls, otherCalls] at taken
  obtain ⟨behind, split⟩ := List.take_prefix (results events).length (results others)
  rw [extracted, extracted, ← split, List.flatMap_append, taken]
  exact List.prefix_append _ _

/-- Of two lists of events that tell of the same receiver, one tells of the first frames of
the other. -/
theorem extracted_prefix_or
    (calls : (Receiver.extraction read (results events).length (.new .standard) source).1 =
      results events)
    (otherCalls : (Receiver.extraction read (results others).length (.new .standard) source).1 =
      results others) :
    extracted events <+: extracted others ∨ extracted others <+: extracted events :=
  (Nat.le_total (results events).length (results others).length).imp
    (extracted_prefix_of_le calls otherCalls) (extracted_prefix_of_le otherCalls calls)

end SessionEvent

namespace Session

variable {σ κ τ : Type} {setup : SessionSetup σ κ τ} {source : σ}
  {events : List SessionEvent} {session : Session σ κ τ}

namespace Accounted

/-- The calls are those that the receiver makes on its own. -/
theorem calls (accounted : Accounted setup source events session) :
    (Receiver.extraction setup.read (results events).length (.new .standard) source).1 =
      results events := by
  obtain ⟨receiver, state, calls, _⟩ := accounted.reading
  rw [calls]

/-- The frames handled are the first of those extracted. -/
theorem handled_eq_take (accounted : Accounted setup source events session) :
    handled events = (extracted events).take (handled events).length :=
  List.prefix_iff_eq_take.mp accounted.conserved.handled_prefix_extracted

/-- A session that completes has handled the frames up to the first that resolves the
snapshot. -/
theorem completed (accounted : Accounted setup source events session) {report : Report}
    (ended : session.phase = .ended (.ok report)) (completed : report.outcome = .completed) :
    ∃ (count lines : Nat) (elapsed : Duration),
      setup.codec.firstResolved? (extracted events) = some count ∧
      count = (handled events).length ∧
      report = (Collector.ofFrames setup.codec configRequestId
        ((extracted events).take count) lines).report .completed elapsed := by
  have accounts := accounted.accounts
  rw [ended] at accounts
  obtain ⟨lines, elapsed, ⟨resolved, told⟩ | ⟨_, told⟩⟩ := accounts
  · obtain ⟨more, split⟩ := accounted.conserved.handled_prefix_extracted
    refine ⟨_, lines, elapsed, ?_, rfl, ?_⟩
    · rw [← split]
      exact Codec.firstResolved?_append resolved more
    · rw [← accounted.handled_eq_take]
      exact told
  · rw [told] at completed
    cases completed

/-- A session that runs out of time has handled frames that do not resolve the snapshot. -/
theorem timedOut (accounted : Accounted setup source events session) {report : Report}
    (ended : session.phase = .ended (.ok report)) (uncompleted : report.outcome ≠ .completed) :
    ∃ (count lines : Nat) (elapsed : Duration),
      count = (handled events).length ∧ count ≤ (extracted events).length ∧
      setup.codec.firstResolved? ((extracted events).take count) = none ∧
      report = (Collector.ofFrames setup.codec configRequestId
        ((extracted events).take count) lines).report .timedOut elapsed := by
  have accounts := accounted.accounts
  rw [ended] at accounts
  obtain ⟨lines, elapsed, ⟨_, told⟩ | ⟨unresolved, told⟩⟩ := accounts
  · rw [told] at uncompleted
    exact absurd rfl uncompleted
  · refine ⟨_, lines, elapsed, rfl, accounted.conserved.handled_prefix_extracted.length_le, ?_, ?_⟩
    · rw [← accounted.handled_eq_take]
      exact unresolved
    · rw [← accounted.handled_eq_take]
      exact told

/-- A session that fails once its request is out has handled everything in front of the
failure, and that was of the link. -/
theorem failed (accounted : Accounted setup source events session) {error : SessionError}
    (ended : session.phase = .ended (.error error)) (asked : .requested ∈ events) :
    ∃ cause, error = .frame cause ∧ (results events).getLast? = some (.error cause) ∧
      handled events = extracted events ∧
      setup.codec.firstResolved? (extracted events) = none := by
  have accounts := accounted.accounts
  rw [ended] at accounts
  obtain ⟨unresolved, cause, told, last⟩ := accounts asked
  obtain ⟨called, everything⟩ := accounted.conserved.took_failure last
  exact ⟨cause, told, called, everything, everything ▸ unresolved⟩

/-- Two sessions that hear the same and complete report the same. -/
theorem same_report {κ' τ' : Type} {other : SessionSetup σ κ' τ'} {others : List SessionEvent}
    {session' : Session σ κ' τ'} (accounted : Accounted setup source events session)
    (accounted' : Accounted other source others session')
    (codec : other.codec = setup.codec) (read : other.read = setup.read)
    {report report' : Report} (ended : session.phase = .ended (.ok report))
    (ended' : session'.phase = .ended (.ok report')) (completed : report.outcome = .completed)
    (completed' : report'.outcome = .completed) :
    report'.snapshot = report.snapshot ∧
      report'.stats = { report.stats with consoleLines := report'.stats.consoleLines } := by
  obtain ⟨count, lines, elapsed, resolved, _, rfl⟩ := accounted.completed ended completed
  obtain ⟨count', lines', elapsed', resolved', _, rfl⟩ := accounted'.completed ended' completed'
  have calls' := accounted'.calls
  rw [read] at calls'
  rw [codec] at resolved'
  have same : (extracted events).take count = (extracted others).take count' :=
    (extracted_prefix_or accounted.calls calls').elim
      (Codec.take_eq_of_firstResolved? · resolved resolved')
      (fun first => (Codec.take_eq_of_firstResolved? first resolved' resolved).symm)
  rw [codec, same]
  exact ⟨rfl, rfl⟩

end Accounted

/-- A session with these settings and this sink that reads a script as it is. -/
def sampleSetup (settings : SessionSettings) (sink : LineSink (List String)) :
    SessionSetup Device Recorder (List String) :=
  ⟨settings, .envelope, .recorder, FiniteSource.direct.read, sink⟩

/-- A session that hears the sample and tells this of it. -/
theorem exists_run_sample (settings : SessionSettings) (sink : LineSink (List String))
    (outcome : Outcome) (stats : Stats)
    (told : (runSession settings .envelope .recorder .direct sink ⟨[], none⟩
      (.ofScript [.data sampleRecording]) []).1.toOption.map
        (fun report => (report.outcome, report.stats)) = some (outcome, stats)) :
    ∃ (events : List SessionEvent) (session : Session Device Recorder (List String))
      (report : Report),
      Run (sampleSetup settings sink)
        (.start settings (.ofScript [.data sampleRecording]) ⟨[], none⟩ []) events session ∧
      session.phase = .ended (.ok report) ∧ report.outcome = outcome ∧ report.stats = stats := by
  obtain ⟨events, session, run, ended, _⟩ := exists_run_runSession (sampleSetup settings sink)
    .direct rfl ⟨[], none⟩ (.ofScript [.data sampleRecording]) []
  rcases result : (runSession settings .envelope .recorder .direct sink ⟨[], none⟩
    (.ofScript [.data sampleRecording]) []).1 with error | report <;> rw [result] at told
  · cases told
  · simp only [Except.toOption, Option.map_some, Option.some.injEq, Prod.mk.injEq] at told
    exact ⟨events, session, report, run, ended.trans (by rw [← result]; rfl), told⟩

/-- A session whose link fails behind the second frame of the sample. -/
theorem exists_run_failing :
    ∃ (events : List SessionEvent) (session : Session Device Recorder (List String))
      (error : SessionError),
      Run (sampleSetup .standard .collect)
        (.start .standard (.ofScript [.data (sampleRecording.take 24),
          .failure ⟨.permissionDenied, none⟩]) ⟨[], none⟩ []) events session ∧
      session.phase = .ended (.error error) ∧ .requested ∈ events := by
  obtain ⟨events, session, run, ended, _, _, asked⟩ := exists_run_runSession
    (sampleSetup .standard .collect) .direct rfl ⟨[], none⟩
    (.ofScript [.data (sampleRecording.take 24), .failure ⟨.permissionDenied, none⟩]) []
  have failed : (runSession .standard .envelope .recorder .direct .collect ⟨[], none⟩
      (.ofScript [.data (sampleRecording.take 24), .failure ⟨.permissionDenied, none⟩])
        []).1.isOk = false := by
    decide +kernel
  rcases result : (runSession .standard .envelope .recorder .direct .collect ⟨[], none⟩
    (.ofScript [.data (sampleRecording.take 24), .failure ⟨.permissionDenied, none⟩]) []).1
    with error | report <;> rw [result] at failed
  · exact ⟨events, session, error, run, ended.trans (by rw [← result]; rfl),
      asked (by decide +kernel)⟩
  · cases failed

/-- What a session comes to does not depend on the order of the steps of its reader and its
own, on the size of its queues or on its console.

The calls of the receiver are those that it makes on its own. As long as somebody listens,
the frames handled, those in the queue and the one that the reader holds are the frames
extracted, and the collector has gathered from those handled. A session that completes
reports the frames up to the first that resolves the snapshot, and so does every other that
hears the same; one that runs out of time reports some of the first frames, which do not
resolve it. Once the request is out, a session fails only with the failure that the last
call gave, and with all frames in front of it handled. -/
theorem run_independent_of_schedule {link : κ} {console : τ}
    (run : Run setup (.start setup.settings source link console) events session) :
    (Receiver.extraction setup.read (results events).length (.new .standard) source).1 =
        results events ∧
      session.collector = .ofFrames setup.codec configRequestId (handled events)
        session.collector.consoleLines ∧
      handled events <+: extracted events ∧
      (session.phase.isOver = false → session.queues.frames.isOpen = true) ∧
      (session.queues.frames.isOpen = true →
        handled events ++ frameItems session.queues.frames.items ++
          frameItems session.reader.phase.holding = extracted events) ∧
      (∀ report, session.phase = .ended (.ok report) → report.outcome = .completed →
        ∃ (count lines : Nat) (elapsed : Duration),
          setup.codec.firstResolved? (extracted events) = some count ∧
          count = (handled events).length ∧
          report = (Collector.ofFrames setup.codec configRequestId
            ((extracted events).take count) lines).report .completed elapsed) ∧
      (∀ report, session.phase = .ended (.ok report) → report.outcome ≠ .completed →
        ∃ (count lines : Nat) (elapsed : Duration),
          count = (handled events).length ∧ count ≤ (extracted events).length ∧
          setup.codec.firstResolved? ((extracted events).take count) = none ∧
          report = (Collector.ofFrames setup.codec configRequestId
            ((extracted events).take count) lines).report .timedOut elapsed) ∧
      (∀ error, session.phase = .ended (.error error) → .requested ∈ events →
        ∃ cause, error = .frame cause ∧ (results events).getLast? = some (.error cause) ∧
          handled events = extracted events ∧
          setup.codec.firstResolved? (extracted events) = none) ∧
      (∀ {κ' τ' : Type} (other : SessionSetup σ κ' τ') (link' : κ') (console' : τ')
        (others : List SessionEvent) (session' : Session σ κ' τ') (report report' : Report),
        other.codec = setup.codec → other.read = setup.read →
        Run other (.start other.settings source link' console') others session' →
        session.phase = .ended (.ok report) → session'.phase = .ended (.ok report') →
        report.outcome = .completed → report'.outcome = .completed →
        report'.snapshot = report.snapshot ∧
          report'.stats = { report.stats with consoleLines := report'.stats.consoleLines }) := by
  have accounted := Accounted.run run
  refine ⟨accounted.calls, accounted.gathered, accounted.conserved.handled_prefix_extracted,
    accounted.listening, accounted.conserved.handled_append, ?_, ?_, ?_, ?_⟩
  · intro report ended completed
    exact accounted.completed ended completed
  · intro report ended uncompleted
    exact accounted.timedOut ended uncompleted
  · intro error ended asked
    exact accounted.failed ended asked
  · intro κ' τ' other link' console' others session' report report' codec read run' ended ended'
      completed completed'
    exact accounted.same_report (.run run') codec read ended ended' completed completed'

/-- Sessions that hear the sample: one with the usual queues, one with the shortest ones
and without taking any line, and one whose link fails behind the second frame. -/
theorem run_independent_of_schedule_sample :
    ∃ (events failing : List SessionEvent)
      (session other broken : Session Device Recorder (List String))
      (report report' : Report) (cause : FrameError),
      session.phase = .ended (.ok report) ∧ other.phase = .ended (.ok report') ∧
      report.stats = ⟨3, 0, 0, 1⟩ ∧ report'.stats = ⟨3, 0, 0, 0⟩ ∧
      Codec.envelope.firstResolved? (extracted events) = some (handled events).length ∧
      report'.snapshot = report.snapshot ∧
      broken.phase = .ended (.error (.frame cause)) ∧ handled failing = extracted failing ∧
      (results failing).getLast? = some (.error cause) := by
  obtain ⟨events, session, report, run, ended, outcome, stats⟩ :=
    exists_run_sample .standard .collect .completed ⟨3, 0, 0, 1⟩ (by decide +kernel)
  obtain ⟨others, other, report', run', ended', outcome', stats'⟩ :=
    exists_run_sample ⟨.ofSeconds 15, .zero, 0, 0, false⟩ .discard .completed ⟨3, 0, 0, 0⟩
      (by decide +kernel)
  obtain ⟨failing, broken, error, runFailing, endedFailing, asked⟩ := exists_run_failing
  obtain ⟨_, _, _, _, _, completed, _, _, same⟩ := run_independent_of_schedule run
  obtain ⟨_, _, _, _, _, _, _, failed, _⟩ := run_independent_of_schedule runFailing
  obtain ⟨_, _, _, resolved, everything, _⟩ := completed report ended outcome
  obtain ⟨cause, rfl, last, allHandled, _⟩ := failed error endedFailing asked
  have both := same ⟨⟨.ofSeconds 15, .zero, 0, 0, false⟩, .envelope, .recorder, _, .discard⟩ _ _ _ _
    report report' rfl rfl run' ended ended' outcome outcome'
  exact ⟨events, failing, session, other, broken, report, report', cause, ended, ended', stats,
    stats', everything ▸ resolved, both.1, endedFailing, allHandled, last⟩

end Session

end RadioSnapshot
