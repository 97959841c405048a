import RadioSnapshot.Proofs.Session.Recording
import RadioSnapshot.Proofs.Snapshot.Secrets
import RadioSnapshot.Session.Live

/-!
# Secrets in a session

Two inputs whose messages differ only in secrets are taken in alike, step by step: the
collectors differ only in secrets, and the consoles not at all. So following them stops at the
same frame, and the reports look alike.
-/

namespace RadioSnapshot

open Radio

variable {σ τ : Type}

/-- The frames carry messages that differ at most in secrets, or both carry none. -/
def Radio.Codec.Alike (codec : Codec) (first second : Frame) : Prop :=
  (codec.decode first.payload).toOption.map Message.concealed =
    (codec.decode second.payload).toOption.map Message.concealed

/-- The same line, or frames that are alike. -/
inductive Arrival.Alike (codec : Codec) : Arrival → Arrival → Prop
  | line (text : String) : Alike codec (.line text) (.line text)
  | frame {first second : Frame} (alike : codec.Alike first second) :
      Alike codec (.frame first) (.frame second)

theorem Radio.Message.concealed_eq_logRecord {message : Message} {record : LogRecord} :
    message.concealed = .logRecord record ↔ message = .logRecord record := by
  cases message <;> simp [concealed]

namespace Collector

/-- The collector without the secrets in its snapshot. -/
def concealed (collector : Collector) : Collector :=
  { collector with snapshot := collector.snapshot.concealed }

theorem merge_concealed (message : Message) (collector : Collector) :
    collector.concealed.merge message.concealed = (collector.merge message).concealed := by
  have applied := collector.snapshot.apply_concealed collector.request message
  have request : collector.concealed.request = collector.request := rfl
  have snapshot : collector.concealed.snapshot = collector.snapshot.concealed := rfl
  simp only [merge, request, snapshot, applied]
  rfl

theorem forward_concealed (sink : LineSink τ) (line : String) (collector : Collector)
    (console : τ) :
    collector.concealed.forward sink line console =
      ((collector.forward sink line console).1.concealed,
        (collector.forward sink line console).2) :=
  rfl

theorem countLines_alike {collector collector' : Collector}
    (same : collector.concealed = collector'.concealed) (lines : Nat) :
    (collector.countLines lines).concealed = (collector'.countLines lines).concealed :=
  congrArg (countLines lines) same

/-- A frame that carries a message which is no log record. -/
theorem receive_message {codec : Codec} {frame : Frame} {message : Message}
    (carried : codec.decode frame.payload = .ok message)
    (merged : ∀ record, message ≠ .logRecord record) (sink : LineSink τ)
    (collector : Collector) (console : τ) :
    collector.receive codec sink frame console =
      ({ collector with frames := collector.frames + 1 }.merge message, console) := by
  simp only [receive, carried]

/-- Receiving frames that are alike. -/
theorem receive_alike {codec : Codec} {first second : Frame} (alike : codec.Alike first second)
    {collector collector' : Collector} (same : collector.concealed = collector'.concealed)
    (sink : LineSink τ) (console : τ) :
    let near := collector.receive codec sink first console
    let far := collector'.receive codec sink second console
    near.1.concealed = far.1.concealed ∧ near.2 = far.2 := by
  have counted : ({ collector with frames := collector.frames + 1 } : Collector).concealed =
      ({ collector' with frames := collector'.frames + 1 } : Collector).concealed :=
    congrArg (fun collector : Collector => { collector with frames := collector.frames + 1 }) same
  rw [Codec.Alike] at alike
  rcases carried : codec.decode first.payload with error | message <;>
    rcases carried' : codec.decode second.payload with error' | message' <;>
    simp only [carried, carried', Except.toOption, Option.map_some, Option.map_none,
      reduceCtorEq, Option.some.injEq] at alike
  · simp only [receive, carried, carried', and_true]
    exact congrArg (fun collector : Collector =>
      { collector with decodeFailures := collector.decodeFailures + 1 }) counted
  · by_cases logged : ∃ record, message = .logRecord record
    · obtain ⟨record, rfl⟩ := logged
      obtain rfl : message' = .logRecord record := Message.concealed_eq_logRecord.mp alike.symm
      have forwarded := congrArg (·.forward sink record.line console) counted
      simp only [forward_concealed] at forwarded
      simp only [receive, carried, carried']
      exact Prod.mk.inj forwarded
    · have merged : ∀ record, message ≠ .logRecord record := not_exists.mp logged
      have merged' : ∀ record, message' ≠ .logRecord record := by
        intro record same
        apply merged record
        rw [← Message.concealed_eq_logRecord, alike, same]
        rfl
      rw [receive_message carried merged, receive_message carried' merged']
      refine ⟨?_, rfl⟩
      rw [← merge_concealed, ← merge_concealed, counted, alike]

/-- Receiving many frames that are alike. -/
theorem receiveAll_alike {codec : Codec} {first second : List Frame}
    (alike : List.Forall₂ codec.Alike first second) {collector collector' : Collector}
    (same : collector.concealed = collector'.concealed) (sink : LineSink τ) (console : τ) :
    let near := collector.receiveAll codec sink first console
    let far := collector'.receiveAll codec sink second console
    near.1.concealed = far.1.concealed ∧ near.2 = far.2 := by
  induction alike generalizing collector collector' console with
  | nil => exact ⟨same, rfl⟩
  | cons head tail ih =>
      obtain ⟨collectors, consoles⟩ := receive_alike head same sink console
      simp only [receiveAll, consoles]
      exact ih collectors _

theorem isResolved_of_concealed {collector collector' : Collector}
    (same : collector.concealed = collector'.concealed) :
    collector.snapshot.isResolved = collector'.snapshot.isResolved := by
  have snapshots : collector.snapshot.concealed = collector'.snapshot.concealed :=
    congrArg Collector.snapshot same
  rw [← Snapshot.isResolved_concealed, snapshots, Snapshot.isResolved_concealed]

end Collector

/-- Attending arrivals that are alike stops at the same one, in the same way. -/
theorem attend_alike {codec : Codec} {first second : List Arrival}
    (alike : List.Forall₂ (Arrival.Alike codec) first second) {collector collector' : Collector}
    (same : collector.concealed = collector'.concealed) (text records : LineSink τ)
    (ending : Ending) (console : τ) :
    let near := attend codec text records ending first collector console
    let far := attend codec text records ending second collector' console
    near.1 = far.1 ∧ near.2.1.concealed = far.2.1.concealed ∧ near.2.2 = far.2.2 := by
  induction alike generalizing collector collector' console with
  | nil => exact ⟨rfl, same, rfl⟩
  | cons head tail ih =>
      cases head with
      | line text => exact ih same _
      | frame frames =>
          obtain ⟨collectors, consoles⟩ := Collector.receive_alike frames same records console
          simp only [attend, consoles, Collector.isResolved_of_concealed collectors]
          split
          · exact ⟨rfl, collectors, consoles⟩
          · exact ih collectors _

/-- Collectors that differ at most in secrets give reports that look alike. -/
theorem Collector.report_looksLike {collector collector' : Collector}
    (same : collector.concealed = collector'.concealed) (outcome : Outcome)
    (elapsed : Duration) :
    (collector.report outcome elapsed).LooksLike (collector'.report outcome elapsed) :=
  Report.looksLike_of_concealed
    (congrArg (fun collector : Collector => collector.report outcome elapsed) same)

/-- So do exchanges with such collectors and the same console. -/
theorem Exchange.report_looksLike {exchange : Exchange σ (Counted τ)}
    {exchange' : Exchange σ (Counted τ)}
    (collectors : exchange.collector.concealed = exchange'.collector.concealed)
    (consoles : exchange.reception.console = exchange'.reception.console) (outcome : Outcome)
    (elapsed : Duration) :
    (exchange.report outcome elapsed).LooksLike (exchange'.report outcome elapsed) := by
  rw [report, report, ← consoles]
  exact Collector.report_looksLike (Collector.countLines_alike collectors _) outcome elapsed

/-- The source brings the same in both states but for secrets, and stops in the same way. -/
structure FiniteSource.Alike (codec : Codec) (source : FiniteSource σ) (state state' : σ) :
    Prop where
  ending : (source.transcript (Receiver.new .standard).room state).ending =
    (source.transcript (Receiver.new .standard).room state').ending
  arrivals : List.Forall₂ (Arrival.Alike codec)
    (Arrival.ofBytes (source.transcript (Receiver.new .standard).room state).bytes)
    (Arrival.ofBytes (source.transcript (Receiver.new .standard).room state').bytes)

/-- Failures that are the same, or reports that look alike. -/
inductive ResultsLookAlike : (result result' : Except SessionError Report) → Prop
  | failed (error : SessionError) : ResultsLookAlike (.error error) (.error error)
  | reported {report report' : Report} (alike : report.LooksLike report') :
      ResultsLookAlike (.ok report) (.ok report')

namespace FiniteSource.Alike

variable {codec : Codec} {source : FiniteSource σ} {state state' : σ}

/-- Sources that are alike are followed alike. -/
theorem follow (alike : source.Alike codec state state') (sink : LineSink τ) (console : τ) :
    let near := (Exchange.start .standard state console).follow codec source sink.counted
      sink.uncounted
    let far := (Exchange.start .standard state' console).follow codec source sink.counted
      sink.uncounted
    near.1 = far.1 ∧ near.2.collector.concealed = far.2.collector.concealed ∧
      near.2.reception.console = far.2.reception.console := by
  have same : (Collector.new configRequestId).concealed =
      (Collector.new configRequestId).concealed := rfl
  have attended := attend_alike alike.arrivals same sink.counted sink.uncounted
    (source.transcript (Receiver.new .standard).room state).ending ⟨console, 0⟩
  rw [← Exchange.follow_start, alike.ending, ← Exchange.follow_start] at attended
  exact attended

theorem replay (alike : source.Alike codec state state') (sink : LineSink τ) (console : τ)
    (elapsed : Duration) :
    let near := RadioSnapshot.replay codec source sink state console elapsed
    let far := RadioSnapshot.replay codec source sink state' console elapsed
    ResultsLookAlike near.1 far.1 ∧ near.2 = far.2 := by
  obtain ⟨stops, collectors, consoles⟩ := alike.follow sink console
  simp only [RadioSnapshot.replay, stops, consoles]
  refine ⟨?_, trivial⟩
  unfold Stop.replayed
  split
  next => exact .reported (Exchange.report_looksLike collectors consoles _ _)
  next => exact .reported (Exchange.report_looksLike collectors consoles _ _)
  next => exact .reported (Exchange.report_looksLike collectors consoles _ _)
  next => exact .failed _

theorem runSession {κ : Type} (alike : source.Alike codec state state')
    (settings : SessionSettings) (outlet : ByteSink κ) (sink : LineSink τ) (link : κ)
    (console : τ) :
    let near := RadioSnapshot.runSession settings codec outlet source sink link state console
    let far := RadioSnapshot.runSession settings codec outlet source sink link state' console
    ResultsLookAlike near.1 far.1 ∧ near.2 = far.2 := by
  obtain ⟨stops, collectors, consoles⟩ := alike.follow sink console
  simp only [RadioSnapshot.runSession, stops, consoles]
  split
  next => exact ⟨.failed _, rfl⟩
  next =>
    split
    next => exact ⟨.reported (Exchange.report_looksLike rfl rfl _ _), rfl⟩
    next =>
      refine ⟨?_, rfl⟩
      split
      next => exact .reported (Exchange.report_looksLike collectors consoles _ _)
      next => exact .reported (Exchange.report_looksLike collectors consoles _ _)
      next => exact .failed _

end FiniteSource.Alike

/-- An answer is read to its end, and then it fails or falls silent. -/
theorem FiniteSource.transcript_answer {room : Nat} (positive : 0 < room) (bytes : List UInt8)
    (failure : Option LinkError) :
    FiniteSource.answer.transcript room ⟨bytes, failure⟩ =
      ⟨bytes, (failure.map Ending.failed).getD .quiet⟩ := by
  induction size : bytes.length using Nat.strong_induction_on generalizing bytes with
  | _ count ih =>
      cases bytes with
      | nil =>
          cases failure with
          | none => exact transcript_of_nothing rfl
          | some error => exact transcript_of_error rfl
      | cons byte bytes =>
          have taken : (byte :: bytes).take room ≠ [] := by
            simp [Nat.ne_of_gt positive]
          have shorter : ((byte :: bytes).drop room).length < count := by
            rw [List.length_drop, size]
            rw [List.length_cons] at size
            omega
          rw [transcript_of_data taken rfl, ih _ shorter _ rfl, Transcript.prepend,
            List.take_append_drop]

/-- Radios that answer alike. -/
theorem FiniteSource.Alike.answers {codec : Codec} {radio radio' : Answer}
    (failure : radio.failure = radio'.failure)
    (arrivals : List.Forall₂ (Arrival.Alike codec) (Arrival.ofBytes radio.bytes)
      (Arrival.ofBytes radio'.bytes)) :
    FiniteSource.answer.Alike codec radio radio' := by
  have positive : 0 < (Receiver.new .standard).room := Nat.le_max_right _ 1
  constructor
  · rw [transcript_answer positive radio.bytes, transcript_answer positive radio'.bytes, failure]
  · rw [transcript_answer positive radio.bytes, transcript_answer positive radio'.bytes]
    exact arrivals

end RadioSnapshot
