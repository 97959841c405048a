import RadioSnapshot.Proofs.Console.Segments
import RadioSnapshot.Proofs.Session.Ignored
import RadioSnapshot.Proofs.Session.Independence

/-!
# Statistics account for everything once

Every frame handled is counted in one place: it carries no message, or a log record, or a
message that is merged, which is ignored or counts. And every line that the caller's sink
took is counted once, whether it was text of the console or the text of a log record. Both
hold of replays and, in whatever order their steps come, of sessions.
-/

namespace RadioSnapshot

open Radio Snapshot SessionEvent

variable {σ κ τ : Type}

/-! ## Frames -/

/-- A frame carries nothing that can be read, or a log record, or a message that is merged. -/
theorem Radio.Codec.carries_one (codec : Codec) (request : UInt32) (frame : Frame)
    (snapshot : Snapshot) :
    codec.failures [frame] + ([frame].filterMap codec.logLine?).length +
      (Snapshot.mergings request (codec.messages [frame]) snapshot).length = 1 := by
  rcases decoded : codec.decode frame.payload with error | message
  · simp [failures, messages, logLine?, decoded, Except.isOk, Except.toBool, Except.toOption,
      Snapshot.mergings]
  · cases message <;>
      simp [failures, messages, logLine?, decoded, Except.isOk, Except.toBool, Except.toOption,
        Snapshot.mergings]

/-- Frames are failures, log records and mergings, each of them one of these. -/
theorem Radio.Codec.length_frames (codec : Codec) (request : UInt32) (frames : List Frame)
    (snapshot : Snapshot) :
    frames.length = codec.failures frames + (frames.filterMap codec.logLine?).length +
      (Snapshot.mergings request (codec.messages frames) snapshot).length := by
  induction frames generalizing snapshot with
  | nil => rfl
  | cons frame frames ih =>
      have failures : codec.failures ([frame] ++ frames) =
          codec.failures [frame] + codec.failures frames := List.countP_append
      have messages : codec.messages ([frame] ++ frames) =
          codec.messages [frame] ++ codec.messages frames := List.filterMap_append
      have one := codec.carries_one request frame snapshot
      have others := ih ((codec.messages [frame]).foldl
        (fun snapshot message => (snapshot.apply request message).2) snapshot)
      rw [← List.singleton_append, failures, messages, List.filterMap_append, mergings_append]
      simp only [List.length_append, List.length_singleton]
      omega

/-- What statistics say of the frames that were handled. -/
structure Stats.Accounts (codec : Codec) (handled : List Frame) (stats : Stats) : Prop where
  frames : stats.frames = handled.length
  decodeFailures : stats.decodeFailures = codec.failures handled
  ignoredMessages : stats.ignoredMessages = (codec.mergings handled).countP Merging.isIgnored
  /-- Every frame is accounted for once. -/
  balance : stats.frames = stats.decodeFailures + stats.ignoredMessages +
    (handled.filterMap codec.logLine?).length +
    (codec.mergings handled).countP Merging.isCounted

theorem Collector.accounts_report (codec : Codec) (frames : List Frame) (outcome : Outcome)
    (lines : Nat) (elapsed : Duration) :
    ((ofFrames codec configRequestId frames lines).report outcome elapsed).stats.Accounts codec
      frames where
  frames := rfl
  decodeFailures := rfl
  ignoredMessages := ignored_eq_countP configRequestId (codec.messages frames) .empty
  balance := by
    have carried := codec.length_frames configRequestId frames .empty
    have merged := Merging.length_mergings (codec.mergings frames)
    rw [← Radio.Codec.mergings, merged] at carried
    simp only [report, ofFrames, ignored_eq_countP]
    rw [carried, ← Radio.Codec.mergings]
    omega

/-! ## Lines -/

/-- A replay whose sink keeps the offers gives the same. -/
theorem replay_logged (codec : Codec) (source : FiniteSource σ) (sink : LineSink τ)
    (recording : σ) (console : τ) (elapsed : Duration) :
    let transcript := source.transcript (Receiver.new .standard).room recording
    let played := replay codec source sink recording console elapsed
    ∃ offers : List (String × Bool),
      replay codec source sink.logged recording ([], console) elapsed =
        (played.1, offers, played.2) ∧
      offers.map Prod.fst =
        Arrival.offers codec (Arrival.handled codec (Arrival.ofBytes transcript.bytes)) ∧
      ∀ report, played.1 = .ok report → report.stats.consoleLines = offers.countP (·.2) := by
  intro transcript played
  obtain ⟨offers, lines, counted, kept⟩ := sink.offerAll_logged
    (Arrival.offers codec (Arrival.handled codec (Arrival.ofBytes transcript.bytes))) [] console
  simp only [List.nil_append] at kept
  simp only [played, replay_eq]
  obtain ⟨error, failed⟩ | ⟨outcome, told⟩ := reference_handled codec transcript
  · refine ⟨offers, ?_, lines, ?_⟩
    · rw [failed, failed, kept]
    · rw [failed]
      intro report given
      cases given
  · refine ⟨offers, ?_, lines, ?_⟩
    · rw [told, told, reported, reported, Arrival.gathered, Arrival.gathered, kept]
    · rw [told]
      intro report given
      cases given
      exact counted.symm

/-- A session with the same sink, which keeps the offers besides. -/
def SessionSetup.logged (setup : SessionSetup σ κ τ) :
    SessionSetup σ κ (List (String × Bool) × τ) :=
  ⟨setup.settings, setup.codec, setup.outlet, setup.read, setup.sink.logged⟩

/-- A session of which these offers have been kept. -/
def Session.logging (offers : List (String × Bool)) (session : Session σ κ τ) :
    Session σ κ (List (String × Bool) × τ) :=
  ⟨session.phase, session.transmitter, session.reader, session.queues, session.collector,
    (offers, session.console)⟩

theorem Session.phase_logging (offers : List (String × Bool)) (session : Session σ κ τ) :
    (session.logging offers).phase = session.phase := rfl

/-- Forwarding a line offers it, and counts it if it is taken. -/
theorem Collector.forward_logged (sink : LineSink τ) (line : String) (collector : Collector)
    (console : τ) :
    let forwarded := collector.forward sink line console
    let offer := (line, (sink.offer line console).1)
    forwarded.1.consoleLines = collector.consoleLines + [offer].countP (·.2) ∧
      ∀ offers, collector.forward sink.logged line (offers, console) =
        (forwarded.1, offers ++ [offer], forwarded.2) := by
  rcases answer : sink.offer line console with ⟨_ | _, after⟩ <;>
    simp [forward, LineSink.logged, answer]

/-- Receiving a frame offers the line of its log record, if it carries one. -/
theorem Collector.receive_logged (codec : Codec) (sink : LineSink τ) (frame : Frame)
    (collector : Collector) (console : τ) :
    let received := collector.receive codec sink frame console
    ∃ later : List (String × Bool),
      later.map Prod.fst = (codec.logLine? frame).toList ∧
      received.1.consoleLines = collector.consoleLines + later.countP (·.2) ∧
      ∀ offers, collector.receive codec sink.logged frame (offers, console) =
        (received.1, offers ++ later, received.2) := by
  intro received
  simp only [received, receive, Codec.logLine?]
  rcases codec.decode frame.payload with error | message
  · exact ⟨[], rfl, rfl, fun offers => by rw [List.append_nil]⟩
  · cases message with
    | logRecord record =>
        obtain ⟨counted, kept⟩ := forward_logged sink record.line
          { collector with frames := collector.frames + 1 } console
        exact ⟨[(record.line, (sink.offer record.line console).1)], rfl, counted, kept⟩
    | _ =>
        refine ⟨[], rfl, ?_, fun offers => by rw [List.append_nil]⟩
        rfl

theorem Radio.Codec.logLines_sublist (codec : Codec) {frame : Frame}
    {offers : List (String × Bool)}
    (lines : offers.map Prod.fst = (codec.logLine? frame).toList) :
    ((handled [.took (.ok frame)]).filterMap codec.logLine?).Sublist (offers.map Prod.fst) := by
  change ([frame].filterMap codec.logLine?).Sublist _
  rw [lines]
  cases shown : codec.logLine? frame <;> simp [shown]

/-- What a step offers to the sink of the session, with the answers. -/
structure Session.Step.Offers (setup : SessionSetup σ κ τ) (session : Session σ κ τ)
    (event : SessionEvent) (after : Session σ κ τ) (later : List (String × Bool)) : Prop where
  step : ∀ offers, Session.Step setup.logged (session.logging offers) event
    (after.logging (offers ++ later))
  counted : after.collector.consoleLines =
    session.collector.consoleLines + later.countP (·.2)
  logLines : ((handled [event]).filterMap setup.codec.logLine?).Sublist (later.map Prod.fst)

namespace Session.Step

variable {setup : SessionSetup σ κ τ} {session after : Session σ κ τ} {event : SessionEvent}

theorem Offers.nothing
    (step : ∀ offers, Session.Step setup.logged (session.logging offers) event
      (after.logging offers))
    (collector : after.collector = session.collector) (aside : handled [event] = []) :
    Offers setup session event after [] where
  step offers := by
    rw [List.append_nil]
    exact step offers
  counted := by
    rw [collector]
    rfl
  logLines := by
    rw [aside]
    exact .slnil

theorem exists_offers (step : Session.Step setup session event after) :
    ∃ later, Offers setup session event after later := by
  cases step with
  | reader step =>
      have aside : handled [event] = [] := @handled_aside [] event step.took_nothing.1
      exact ⟨[], .nothing (fun offers => .reader step) rfl aside⟩
  | wake waking woken => exact ⟨[], .nothing (fun offers => .wake waking woken) rfl rfl⟩
  | wakeFails waking woken => exact ⟨[], .nothing (fun offers => .wakeFails waking woken) rfl rfl⟩
  | startReader starting => exact ⟨[], .nothing (fun offers => .startReader starting) rfl rfl⟩
  | startFails starting error =>
      refine ⟨[], .nothing (fun offers => ?_) rfl rfl⟩
      exact .startFails ((session.phase_logging offers).trans starting) error
  | ask settling asked => exact ⟨[], .nothing (fun offers => .ask settling asked) rfl rfl⟩
  | askFails settling asked =>
      exact ⟨[], .nothing (fun offers => .askFails settling asked) rfl rfl⟩
  | @receive _ frame _ _ _ following waiting taken unresolved =>
      obtain ⟨later, lines, counted, kept⟩ :=
        session.collector.receive_logged setup.codec setup.sink frame session.console
      rw [taken] at counted kept
      refine ⟨later, fun offers => ?_, counted, setup.codec.logLines_sublist lines⟩
      exact .receive following waiting (kept offers) unresolved
  | @complete asksLines frame rest collector console following waiting taken resolved elapsed =>
      obtain ⟨later, lines, counted, kept⟩ :=
        session.collector.receive_logged setup.codec setup.sink frame session.console
      rw [taken] at counted kept
      refine ⟨later, fun offers => ?_, counted, setup.codec.logLines_sublist lines⟩
      exact @Step.complete _ _ _ setup.logged (session.logging offers) asksLines frame rest
        collector (offers ++ later, console) following waiting (kept offers) resolved elapsed
  | fail following waiting =>
      exact ⟨[], .nothing (fun offers => .fail following waiting) rfl rfl⟩
  | hangUp following nothing gone =>
      exact ⟨[], .nothing (fun offers => .hangUp following nothing gone) rfl rfl⟩
  | @showLine line _ _ _ following waiting shown =>
      obtain ⟨counted, kept⟩ :=
        session.collector.forward_logged setup.sink line session.console
      rw [shown] at counted kept
      refine ⟨[(line, (setup.sink.offer line session.console).1)], fun offers => ?_, counted,
        List.nil_sublist _⟩
      exact .showLine following waiting (kept offers)
  | endLines following nothing gone =>
      exact ⟨[], .nothing (fun offers => .endLines following nothing gone) rfl rfl⟩
  | timeOut following elapsed =>
      refine ⟨[], .nothing (fun offers => ?_) rfl rfl⟩
      exact .timeOut ((session.phase_logging offers).trans following) elapsed
  | closeFrames ended => exact ⟨[], .nothing (fun offers => .closeFrames ended) rfl rfl⟩
  | closeLines ended => exact ⟨[], .nothing (fun offers => .closeLines ended) rfl rfl⟩

/-- A report says how many lines have been taken, and none is offered after it. -/
theorem consoleLines (step : Session.Step setup session event after)
    (reported : ∀ report, session.phase = .ended (.ok report) →
      report.stats.consoleLines = session.collector.consoleLines)
    {report : Report} (ended : after.phase = .ended (.ok report)) :
    report.stats.consoleLines = after.collector.consoleLines := by
  cases step with
  | reader | closeFrames | closeLines => exact reported report ended
  | complete | timeOut =>
      cases ended
      rfl
  | wake | wakeFails | startReader | startFails | ask | askFails | fail | hangUp | endLines =>
      cases ended
  | receive following => cases following.symm.trans ended
  | showLine following => cases following.symm.trans ended

end Session.Step

namespace Session

variable {setup : SessionSetup σ κ τ} {source : σ} {link : κ} {console : τ}
  {events : List SessionEvent} {session : Session σ κ τ}

theorem Run.consoleLines
    (run : Run setup (.start setup.settings source link console) events session)
    {report : Report} (ended : session.phase = .ended (.ok report)) :
    report.stats.consoleLines = session.collector.consoleLines := by
  induction run generalizing report with
  | refl => cases ended
  | step _ step ih => exact step.consoleLines (fun _ => ih) ended

/-- A run whose sink keeps the offers takes the same steps. The lines counted are the offers
that were taken, and the log records handled are among the offers, in order. -/
theorem Run.logged (run : Run setup (.start setup.settings source link console) events session) :
    ∃ offers : List (String × Bool),
      Run setup.logged (.start setup.settings source link ([], console)) events
        (session.logging offers) ∧
      session.collector.consoleLines = offers.countP (·.2) ∧
      ((handled events).filterMap setup.codec.logLine?).Sublist (offers.map Prod.fst) := by
  induction run with
  | refl => exact ⟨[], .refl, rfl, .slnil⟩
  | @step events before after event _ step ih =>
      obtain ⟨offers, run, counted, lines⟩ := ih
      obtain ⟨later, offered⟩ := step.exists_offers
      have handledAll : handled (events ++ [event]) = handled events ++ handled [event] := by
        rw [handled, SessionEvent.taken, List.filterMap_append, frameItems_append]
        rfl
      refine ⟨offers ++ later, run.step (offered.step offers), ?_, ?_⟩
      · rw [offered.counted, counted, List.countP_append]
      · rw [handledAll, List.filterMap_append, List.map_append]
        exact lines.append offered.logLines

theorem Run.accounts
    (run : Run setup (.start setup.settings source link console) events session)
    {report : Report} (ended : session.phase = .ended (.ok report)) :
    report.stats.Accounts setup.codec (handled events) := by
  have accounts := (Accounted.run run).accounts
  rw [ended] at accounts
  obtain ⟨lines, elapsed, ⟨_, rfl⟩ | ⟨_, rfl⟩⟩ := accounts
  · exact Collector.accounts_report setup.codec (handled events) .completed lines elapsed
  · exact Collector.accounts_report setup.codec (handled events) .timedOut lines elapsed

end Session

/-- The statistics of a report account for every frame handled and every line taken, once.

Of the frames handled each carries no message, or a log record, or a message that is merged
and either ignored or applied or completes the snapshot, and the report counts them so. The
lines that it counts are the offers that the sink took, as a sink sees that keeps them all.
For a replay the offers are the lines that arrive and the lines of log records, in the order
of their arrival. For a session, in whatever order its steps and those of its reader come,
the lines of the log records handled are among them, in that order. -/
theorem statistics_account_once :
    (∀ {σ τ : Type} (codec : Codec) (source : FiniteSource σ) (sink : LineSink τ) (recording : σ)
      (console : τ) (elapsed : Duration) (report : Report),
      let played := replay codec source sink recording console elapsed
      played.1 = .ok report →
      let transcript := source.transcript (Receiver.new .standard).room recording
      let handled := Arrival.handled codec (Arrival.ofBytes transcript.bytes)
      report.stats.Accounts codec (Arrival.frames handled) ∧
        ∃ offers : List (String × Bool),
          replay codec source sink.logged recording ([], console) elapsed =
            (.ok report, offers, played.2) ∧
          offers.map Prod.fst = Arrival.offers codec handled ∧
          report.stats.consoleLines = offers.countP (·.2)) ∧
    ∀ {σ κ τ : Type} (setup : SessionSetup σ κ τ) (source : σ) (link : κ) (console : τ)
      (events : List SessionEvent) (session : Session σ κ τ) (report : Report),
      Session.Run setup (.start setup.settings source link console) events session →
      session.phase = .ended (.ok report) →
      report.stats.Accounts setup.codec (handled events) ∧
        ∃ offers : List (String × Bool),
          Session.Run setup.logged (.start setup.settings source link ([], console)) events
            (session.logging offers) ∧
          ((handled events).filterMap setup.codec.logLine?).Sublist (offers.map Prod.fst) ∧
          report.stats.consoleLines = offers.countP (·.2) := by
  constructor
  · intro σ τ codec source sink recording console elapsed report played given transcript handled
    obtain ⟨offers, kept, lines, counted⟩ :=
      replay_logged codec source sink recording console elapsed
    obtain ⟨outcome, reported⟩ := replay_handled given
    refine ⟨?_, offers, ?_, lines, counted report given⟩
    · rw [reported]
      exact Collector.accounts_report codec (Arrival.frames handled) outcome _ elapsed
    · rw [kept, given]
  · intro σ κ τ setup source link console events session report run ended
    obtain ⟨offers, logged, counted, lines⟩ := run.logged
    exact ⟨run.accounts ended, offers, logged, lines, (run.consoleLines ended).trans counted⟩

/-- A radio prints a line, and sends a log record, something that cannot be read, that it has
been restarted, and who it is. -/
def mixedRecording : List UInt8 :=
  [72, 105, 10,
    0x94, 0xC3, 0, 6, 50, 4, 10, 2, 117, 112,
    0x94, 0xC3, 0, 1, 255,
    0x94, 0xC3, 0, 2, 64, 1,
    0x94, 0xC3, 0, 4, 0x1A, 2, 8, 7]

/-- A replay whose sink takes one line, and a session that hears the sample. -/
theorem statistics_account_once_mixed :
    (∃ (report : Report) (offers : List (String × Bool)),
      (replay .envelope .stream (.keep (some 1)) (.ofScript [.data mixedRecording]) []
        .zero).1 = .ok report ∧
      report.stats = ⟨4, 1, 1, 1⟩ ∧
      report.stats.Accounts .envelope (Arrival.frames (Arrival.ofBytes mixedRecording)) ∧
      offers.map Prod.fst = ["Hi", "up"] ∧ offers.countP (·.2) = 1) ∧
    ∃ (events : List SessionEvent) (session : Session Device Recorder (List String))
      (report : Report) (offers : List (String × Bool)),
      session.phase = .ended (.ok report) ∧ report.stats = ⟨3, 0, 0, 1⟩ ∧
      report.stats.Accounts .envelope (handled events) ∧ offers.countP (·.2) = 1 := by
  constructor
  · have told : ((replay .envelope .stream (.keep (some 1)) (.ofScript [.data mixedRecording]) []
        .zero).1.toOption.map Report.stats) = some ⟨4, 1, 1, 1⟩ := by
      decide +kernel
    have handled : Arrival.handled .envelope (Arrival.ofBytes (FiniteSource.stream.transcript
        (Receiver.new .standard).room (.ofScript [.data mixedRecording])).bytes) =
          Arrival.ofBytes mixedRecording := by
      decide +kernel
    have heard : Arrival.offers .envelope (Arrival.ofBytes mixedRecording) = ["Hi", "up"] := by
      decide +kernel
    rcases given : (replay .envelope .stream (.keep (some 1)) (.ofScript [.data mixedRecording])
        [] .zero).1 with error | report
    · rw [given] at told
      cases told
    · rw [given] at told
      have stats : report.stats = ⟨4, 1, 1, 1⟩ := Option.some.inj told
      have accounted := statistics_account_once.1 .envelope .stream (.keep (some 1))
        (.ofScript [.data mixedRecording]) [] .zero report given
      simp only [handled, heard] at accounted
      obtain ⟨accounts, offers, _, lines, counted⟩ := accounted
      rw [stats] at counted
      exact ⟨report, offers, rfl, stats, accounts, lines, counted.symm⟩
  · obtain ⟨events, session, report, run, ended, _, stats⟩ :=
      Session.exists_run_sample .standard .collect .completed ⟨3, 0, 0, 1⟩ (by decide +kernel)
    obtain ⟨accounts, offers, _, _, counted⟩ := statistics_account_once.2
      (Session.sampleSetup .standard .collect) (.ofScript [.data sampleRecording]) ⟨[], none⟩ []
      events session report run ended
    rw [stats] at counted
    exact ⟨events, session, report, offers, ended, stats, accounts, counted.symm⟩

end RadioSnapshot
