import RadioSnapshot.Proofs.Frame.Extraction
import RadioSnapshot.Proofs.Session.Recording

/-!
# Line sinks look on

A sink sees the lines that a receiver completes, and says which of them it takes. Nothing
else depends on that: the results of calls, the bytes read and what a recording comes to
are the same with any other sink.
-/

namespace RadioSnapshot

open Radio

variable {σ τ : Type}

namespace Reception

/-- The lines that so many calls complete. -/
def completed (source : FiniteSource σ) (count : Nat) (receiver : Receiver) (state : σ) :
    List String :=
  (calls source .collect count ⟨receiver.unrefused, state, []⟩).2.console

/-- What calls come to with some sink, in terms of the calls that set their lines aside. -/
theorem calls_completed (source : FiniteSource σ) (sink : LineSink τ) (count : Nat)
    (reception : Reception σ τ) :
    let aside :=
      calls source .collect count ⟨reception.receiver.unrefused, reception.source, []⟩
    let run := reception.calls source sink count
    run.1 = aside.1 ∧ run.2.source = aside.2.source ∧
      run.2.receiver.unrefused = aside.2.receiver ∧
      sink.Offers (completed source count reception.receiver reception.source)
        reception.receiver.refusedLines reception.console run.2.receiver.refusedLines
        run.2.console := by
  obtain ⟨lines, near, far⟩ := calls_collect source sink count reception []
  rw [List.nil_append] at near
  have same : completed source count reception.receiver reception.source = lines := by
    rw [completed, near]
  simp only [near, same, true_and]
  exact far

/-- The lines that calls of a fresh receiver complete are those of the stray bytes among
the bytes looked at. -/
theorem completed_new (source : FiniteSource σ) (limits : ReceiverLimits) (count : Nat)
    (state : σ) :
    ∃ (reads : Nat) (seen held : List UInt8), reads ≤ count ∧
      FiniteSource.received (source.answers (max limits.chunk 1) reads state).1 = seen ++ held ∧
      completed source count (.new limits) state =
        (LineBuffer.empty.run
          (Deframer.Event.strays (Deframer.idle.run limits.maxPayload seen).1)).1 := by
  obtain ⟨reads, seen, bounded, _, split, settled⟩ :=
    settled_calls source .collect limits state [] count
  refine ⟨reads, seen, _, bounded, split, settled.console.trans ?_⟩
  rw [LineSink.offerAll_collect, List.nil_append]

end Reception

/-- All sinks are offered the same, be there a report on it or not. -/
theorem reference_cases (codec : Codec) (transcript : Transcript) :
    ∃ arrivals,
      (∃ error, ∀ {τ : Type} (sink : LineSink τ) (console : τ) (elapsed : Duration),
        reference codec sink transcript console elapsed =
          (.error error, (sink.offerAll (Arrival.offers codec arrivals) console).2)) ∨
      (∃ outcome, ∀ {τ : Type} (sink : LineSink τ) (console : τ) (elapsed : Duration),
        reference codec sink transcript console elapsed =
          (.ok (reported codec sink outcome elapsed arrivals console),
            (sink.offerAll (Arrival.offers codec arrivals) console).2)) :=
  ⟨_, reference_handled codec transcript⟩

/-- Nothing but the number of lines taken depends on the sink.

Receivers that are alike but for the lines refused so far, and that are called equally often,
give the same results with any two sinks. They leave their source in the same state and are
alike again, and both sinks are offered the lines that the calls complete, each of which is
either taken or counted as refused. For a fresh receiver these are the lines in the stray
bytes. Replays of a recording fail alike, or their reports differ in no more than the lines
taken and the time. -/
theorem independent_of_sink :
    (∀ {σ τ τ' : Type} (source : FiniteSource σ) (sink : LineSink τ) (sink' : LineSink τ')
      (count : Nat) (receiver receiver' : Receiver) (state : σ) (console : τ) (console' : τ'),
      receiver'.unrefused = receiver.unrefused →
      let run := Reception.calls source sink count ⟨receiver, state, console⟩
      let run' := Reception.calls source sink' count ⟨receiver', state, console'⟩
      let lines := Reception.completed source count receiver state
      run'.1 = run.1 ∧ run'.2.source = run.2.source ∧
        run'.2.receiver.unrefused = run.2.receiver.unrefused ∧
        sink.Offers lines receiver.refusedLines console run.2.receiver.refusedLines
          run.2.console ∧
        sink'.Offers lines receiver'.refusedLines console' run'.2.receiver.refusedLines
          run'.2.console) ∧
    (∀ {σ : Type} (source : FiniteSource σ) (limits : ReceiverLimits) (count : Nat) (state : σ),
      ∃ (reads : Nat) (seen held : List UInt8), reads ≤ count ∧
        FiniteSource.received (source.answers (max limits.chunk 1) reads state).1 =
          seen ++ held ∧
        Reception.completed source count (.new limits) state =
          (LineBuffer.empty.run
            (Deframer.Event.strays (Deframer.idle.run limits.maxPayload seen).1)).1) ∧
    (∀ {σ : Type} (codec : Codec) (source : FiniteSource σ) (recording : σ),
      ∃ lines : List String, ∀ {τ τ' : Type} (sink : LineSink τ) (sink' : LineSink τ')
        (console : τ) (console' : τ') (elapsed elapsed' : Duration),
        let played := replay codec source sink recording console elapsed
        let played' := replay codec source sink' recording console' elapsed'
        let offered := sink.offerAll lines console
        let offered' := sink'.offerAll lines console'
        played.2 = offered.2 ∧ played'.2 = offered'.2 ∧
          ((∃ error, played.1 = .error error ∧ played'.1 = .error error) ∨
          ∃ report, played.1 = .ok report ∧ report.stats.consoleLines = offered.1 ∧
            played'.1 = .ok { report with
              stats := { report.stats with consoleLines := offered'.1 }
              elapsed := elapsed' })) := by
  refine ⟨?_, Reception.completed_new, ?_⟩
  · intro σ τ τ' source sink sink' count receiver receiver' state console console' alike
    obtain ⟨results, states, receivers, offers⟩ :=
      Reception.calls_completed source sink count ⟨receiver, state, console⟩
    obtain ⟨results', states', receivers', offers'⟩ :=
      Reception.calls_completed source sink' count ⟨receiver', state, console'⟩
    simp only [Reception.completed, alike] at results' states' receivers' offers'
    exact ⟨results'.trans results.symm, states'.trans states.symm,
      receivers'.trans receivers.symm, offers, offers'⟩
  · intro σ codec source recording
    obtain ⟨arrivals, ⟨error, failed⟩ | ⟨outcome, given⟩⟩ :=
      reference_cases codec (source.transcript (Receiver.new .standard).room recording)
    · refine ⟨Arrival.offers codec arrivals, ?_⟩
      intro τ τ' sink sink' console console' elapsed elapsed'
      simp only [replay_eq, failed, true_and]
      exact .inl ⟨error, rfl, rfl⟩
    · refine ⟨Arrival.offers codec arrivals, ?_⟩
      intro τ τ' sink sink' console console' elapsed elapsed'
      simp only [replay_eq, given, true_and]
      exact .inr ⟨_, rfl, rfl, rfl⟩

/-- The sample with a sink that takes every line and with one that takes none. -/
theorem independent_of_sink_sample :
    let run := Reception.calls .stream .collect 3
      ⟨.new .standard, .ofScript [.data sampleRecording], []⟩
    let run' := Reception.calls .stream .discard 3
      ⟨.new .standard, .ofScript [.data sampleRecording], []⟩
    run'.1 = run.1 ∧ run'.2.receiver.strayBytes = run.2.receiver.strayBytes ∧
      run.2.console = ["Hi"] ∧ run.2.receiver.refusedLines = 0 ∧
      run'.2.console = [] ∧ run'.2.receiver.refusedLines = 1 ∧
      ∃ report,
        (replay .envelope .stream .collect (.ofScript [.data sampleRecording]) [] .zero).1 =
          .ok report ∧
        report.stats.consoleLines = 1 ∧
        (replay .envelope .stream .discard (.ofScript [.data sampleRecording]) [] .zero).1 =
          .ok { report with
            stats := { report.stats with consoleLines := 0 }
            elapsed := .zero } := by
  obtain ⟨results, _, alike, offers, offers'⟩ := independent_of_sink.1 .stream .collect .discard
    3 (.new .standard) (.new .standard) (.ofScript [.data sampleRecording]) [] [] rfl
  obtain ⟨lines, played⟩ := independent_of_sink.2.2 .envelope .stream
    (.ofScript [.data sampleRecording])
  have completed : Reception.completed .stream 3 (.new .standard)
      (.ofScript [.data sampleRecording]) = ["Hi"] := by
    decide +kernel
  have taken : ((replay .envelope .stream .collect (.ofScript [.data sampleRecording]) []
      .zero).1.toOption.map (·.stats.consoleLines)) = some 1 := by
    decide +kernel
  have taken' : ((replay .envelope .stream .discard (.ofScript [.data sampleRecording]) []
      .zero).1.toOption.map (·.stats.consoleLines)) = some 0 := by
    decide +kernel
  have strays := congrArg Receiver.strayBytes alike
  rw [completed] at offers offers'
  refine ⟨results, strays, offers.offered, ?_, offers'.offered, ?_, ?_⟩
  · exact Nat.add_right_cancel offers.accounted
  · exact offers'.accounted
  · obtain ⟨_, _, ⟨error, failed, _⟩ | ⟨report, given, counted, given'⟩⟩ :=
      played .collect .discard [] [] .zero .zero
    · rw [failed] at taken
      cases taken
    · rw [given] at taken
      rw [given'] at taken'
      have nothing : (LineSink.discard.offerAll lines []).1 = 0 := Option.some.inj taken'
      rw [nothing] at given'
      exact ⟨report, given, Option.some.inj taken, given'⟩

end RadioSnapshot
