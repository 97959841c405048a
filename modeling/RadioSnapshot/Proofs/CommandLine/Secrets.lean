import RadioSnapshot.CommandLine.Program
import RadioSnapshot.Proofs.Session.Secrets

/-!
# Secrets stay inside

Reports that look alike are printed alike. So the program does the same, to the last byte
that it prints, whatever secrets it is sent.
-/

namespace RadioSnapshot

open Radio

namespace Program

/-- Reports that look alike are printed alike, with the same code. -/
theorem finish_alike {report report' : Report} (alike : report.LooksLike report')
    (format : ReportFormat) (requireComplete : Bool) (incomplete : ExitCode)
    (console : List String) :
    finish format requireComplete incomplete console report =
      finish format requireComplete incomplete console report' := by
  have complete : report.isComplete = report'.isComplete := by
    rw [Report.isComplete, alike.outcome, Report.isComplete]
  have printed : print format report = print format report' := by
    cases format with
    | json => exact congrArg (· ++ "\n") alike.json
    | table => exact congrArg (· ++ "\n") alike.table
    | pretty => exact alike.summary
  rw [finish, finish, complete, printed]

theorem runReplay_alike {recording recording' : Device}
    (alike : FiniteSource.stream.Alike .envelope recording recording') (format : ReportFormat)
    (command : ReplayCommand) (surroundings : Surroundings) :
    runReplay format command { surroundings with recording := .ok recording } =
      runReplay format command { surroundings with recording := .ok recording' } := by
  obtain ⟨results, consoles⟩ := alike.replay .collect [] surroundings.replayTime
  simp only [runReplay, consoles]
  generalize (replay .envelope .stream .collect recording [] surroundings.replayTime).1 = result
    at results ⊢
  generalize (replay .envelope .stream .collect recording' [] surroundings.replayTime).1 = result'
    at results ⊢
  cases results with
  | failed => rfl
  | reported looks => exact finish_alike looks _ _ _ _

theorem runRead_alike {radio radio' : Answer}
    (alike : FiniteSource.answer.Alike .envelope radio radio') (format : ReportFormat)
    (command : ReadCommand) (surroundings : Surroundings) :
    runRead format command { surroundings with radio := .ok radio } =
      runRead format command { surroundings with radio := .ok radio' } := by
  simp only [runRead]
  split
  next => rfl
  next settings _ =>
    obtain ⟨results, rest⟩ := alike.runSession settings .recorder .collect ⟨[], none⟩ []
    simp only [rest]
    generalize (runSession settings .envelope .recorder .answer .collect ⟨[], none⟩ radio []).1 =
      result at results ⊢
    generalize (runSession settings .envelope .recorder .answer .collect ⟨[], none⟩ radio' []).1 =
      result' at results ⊢
    cases results with
    | failed => rfl
    | reported looks => exact finish_alike looks _ _ _ _

end Program

/-- Secrets have no influence on anything that can be seen.

However many of two lists of frames are taken in that are alike one by one, the consoles are
offered the same lines, the snapshots are both resolved or both not, and the reports count
the same and are rendered alike. Attending arrivals that are alike stops at the same one, in
the same way, with the same lines offered and reports that look alike. So the program does the
same with recordings that are alike, and with radios that are. -/
theorem output_independent_of_secrets :
    (∀ {τ : Type} (codec : Codec) (sink : LineSink τ) (request : UInt32)
      (first second : List Frame) (console : τ), List.Forall₂ codec.Alike first second →
      ∀ count,
      let near := (Collector.new request).receiveAll codec sink (first.take count) console
      let far := (Collector.new request).receiveAll codec sink (second.take count) console
      near.2 = far.2 ∧ near.1.snapshot.isResolved = far.1.snapshot.isResolved ∧
        ∀ outcome elapsed,
          (near.1.report outcome elapsed).LooksLike (far.1.report outcome elapsed)) ∧
    (∀ {τ : Type} (codec : Codec) (sink : LineSink τ) (request : UInt32) (ending : Ending)
      (first second : List Arrival) (console : τ),
      List.Forall₂ (Arrival.Alike codec) first second →
      let near := attend codec sink.counted sink.uncounted ending first (.new request)
        ⟨console, 0⟩
      let far := attend codec sink.counted sink.uncounted ending second (.new request)
        ⟨console, 0⟩
      near.1 = far.1 ∧ near.2.1.frames = far.2.1.frames ∧ near.2.2 = far.2.2 ∧
        ∀ outcome elapsed,
          ((near.2.1.countLines near.2.2.taken).report outcome elapsed).LooksLike
            ((far.2.1.countLines far.2.2.taken).report outcome elapsed)) ∧
    (∀ (invocation : Invocation) (surroundings : Surroundings) (recording recording' : Device),
      FiniteSource.stream.Alike .envelope recording recording' →
      Program.run invocation { surroundings with recording := .ok recording } =
        Program.run invocation { surroundings with recording := .ok recording' }) ∧
    (∀ (invocation : Invocation) (surroundings : Surroundings) (radio radio' : Answer),
      radio.failure = radio'.failure →
      List.Forall₂ (Arrival.Alike .envelope) (Arrival.ofBytes radio.bytes)
        (Arrival.ofBytes radio'.bytes) →
      Program.run invocation { surroundings with radio := .ok radio } =
        Program.run invocation { surroundings with radio := .ok radio' }) := by
  refine ⟨?_, ?_, ?_, ?_⟩
  · intro τ codec sink request first second console alike count
    obtain ⟨collectors, consoles⟩ := Collector.receiveAll_alike (List.forall₂_take count alike)
      (rfl : (Collector.new request).concealed = _) sink console
    exact ⟨consoles, Collector.isResolved_of_concealed collectors,
      Collector.report_looksLike collectors⟩
  · intro τ codec sink request ending first second console alike
    obtain ⟨stops, collectors, consoles⟩ := attend_alike alike
      (rfl : (Collector.new request).concealed = _) sink.counted sink.uncounted ending
      ⟨console, 0⟩
    have frames := congrArg Collector.frames collectors
    refine ⟨stops, frames, consoles, fun outcome elapsed => ?_⟩
    rw [consoles]
    exact Collector.report_looksLike (Collector.countLines_alike collectors _) _ _
  · intro invocation surroundings recording recording' alike
    cases invocation with
    | run format command =>
        cases command with
        | replay command => exact Program.runReplay_alike alike format command surroundings
        | read | version => rfl
    | refused | help | version => rfl
  · intro invocation surroundings radio radio' failure arrivals
    have alike := FiniteSource.Alike.answers failure arrivals
    cases invocation with
    | run format command =>
        cases command with
        | read command => exact Program.runRead_alike alike format command surroundings
        | replay | version => rfl
    | refused | help | version => rfl

/-- Pairing with a fixed pin. -/
def pinFrame (pin : UInt8) : Frame := ⟨[0x2A, 4, 0x3A, 2, 0x18, pin]⟩

/-- A radio tells its pin, and then what the sample tells. -/
def pinRecording (pin : UInt8) : List UInt8 :=
  (pinFrame pin).wire ++ sampleRecording

theorem pinRecording_alike : List.Forall₂ (Arrival.Alike .envelope)
    (Arrival.ofBytes (pinRecording 1)) (Arrival.ofBytes (pinRecording 2)) := by
  have arrivals : ∀ pin ∈ [1, 2], Arrival.ofBytes (pinRecording pin) =
      .frame (pinFrame pin) :: Arrival.ofBytes sampleRecording := by
    decide +kernel
  have others : List.Forall₂ (Arrival.Alike .envelope) (Arrival.ofBytes sampleRecording)
      (Arrival.ofBytes sampleRecording) := List.forall₂_same.mpr fun arrival _ => by
    cases arrival with
    | line text => exact .line text
    | frame complete => exact .frame rfl
  rw [arrivals 1 (by decide), arrivals 2 (by decide)]
  exact .cons (.frame rfl) others

/-- Recordings that tell these pins. -/
theorem pinRecording_stream_alike : FiniteSource.stream.Alike .envelope
    (.ofScript [.data (pinRecording 1)]) (.ofScript [.data (pinRecording 2)]) := by
  have transcript : ∀ pin, FiniteSource.stream.transcript (Receiver.new .standard).room
      (.ofScript [.data (pinRecording pin)]) = ⟨pinRecording pin ++ [], .failed .closed⟩ :=
    fun pin => FiniteSource.Scripted.transcript_piece (.inr rfl) (by decide)
      (by simp [pinRecording, sampleRecording]) (fun _ => FiniteSource.transcript_of_error rfl) 0
  constructor
  · rw [transcript, transcript]
  · rw [transcript, transcript, List.append_nil, List.append_nil]
    exact pinRecording_alike

/-- Two pins make a difference to the messages, and none to what the program does, be it with
a recording or with a radio. -/
theorem output_independent_of_secrets_pins :
    let taken pin := (Collector.new 64).receiveAll .envelope .collect ([pinFrame pin].take 1) []
    let attended pin := attend .envelope LineSink.collect.counted LineSink.collect.uncounted
      .quiet (Arrival.ofBytes (pinRecording pin)) (.new 64) ⟨[], 0⟩
    let replayed pin := Program.run (.run .json (.replay ⟨"capture", true, true⟩))
      ⟨[], .ok (.ofScript [.data (pinRecording pin)]), .error .closed, .zero⟩
    let read pin := Program.run
      (.run .json (.read ⟨"port", 115200, "1s", "0s", true, true, true⟩))
      ⟨[], .error ⟨.notFound, none⟩, .ok ⟨pinRecording pin, none⟩, .zero⟩
    Codec.envelope.decode (pinFrame 1).payload ≠ Codec.envelope.decode (pinFrame 2).payload ∧
      ((taken 1).1.report .timedOut .zero).LooksLike ((taken 2).1.report .timedOut .zero) ∧
      (attended 1).1 = .resolved ∧ (attended 2).1 = .resolved ∧
      (attended 1).2.2.console = ["Hi"] ∧ (attended 2).2.2.console = ["Hi"] ∧
      replayed 1 = replayed 2 ∧ (replayed 2).code = .success ∧
      read 1 = read 2 ∧ (read 2).code = .success := by
  intro taken attended replayed read
  obtain ⟨taking, attending, replaying, reading⟩ := output_independent_of_secrets
  have differ : Codec.envelope.decode (pinFrame 1).payload ≠
      Codec.envelope.decode (pinFrame 2).payload := by
    intro same
    cases same
  obtain ⟨_, _, looks⟩ :=
    taking .envelope .collect 64 [pinFrame 1] [pinFrame 2] [] (.cons rfl .nil) 1
  obtain ⟨stops, _, consoles, _⟩ :=
    attending .envelope .collect 64 .quiet _ _ [] pinRecording_alike
  have resolved : (attended 1).1 = .resolved := by decide +kernel
  have lines : (attended 1).2.2.console = ["Hi"] := by decide +kernel
  have lines' : (attended 2).2.2.console = ["Hi"] := by
    rw [← lines]
    exact congrArg Counted.console consoles.symm
  refine ⟨differ, looks .timedOut .zero, resolved, stops.symm.trans resolved, lines, lines', ?_⟩
  refine ⟨?_, by decide +kernel, ?_, by decide +kernel⟩
  · exact replaying _ ⟨[], .error ⟨.notFound, none⟩, .error .closed, .zero⟩ _ _
      pinRecording_stream_alike
  · exact reading _ ⟨[], .error ⟨.notFound, none⟩, .error .closed, .zero⟩
      ⟨pinRecording 1, none⟩ ⟨pinRecording 2, none⟩ rfl pinRecording_alike

end RadioSnapshot
