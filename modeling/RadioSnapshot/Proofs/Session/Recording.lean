import RadioSnapshot.Proofs.Session.Attendance
import RadioSnapshot.Proofs.Session.Gathering
import RadioSnapshot.Session.Replay

/-!
# What replaying a recording gives

The report of a replay is decided by the bytes of the recording: by the frames up to
the one that resolves the snapshot, and by the lines that arrive until then. How the
bytes were cut, and what comes behind that frame, is not seen in it.
-/

namespace RadioSnapshot

open Radio

variable {σ τ : Type}

/-- The arrivals that are handled: those up to the frame that resolves the snapshot, if there
is one, and otherwise all. -/
def Arrival.handled (codec : Codec) (arrivals : List Arrival) : List Arrival :=
  match codec.firstResolved? (frames arrivals) with
  | some count => through count arrivals
  | none => arrivals

/-- What arrivals come to: what is gathered from their frames, with the lines counted that the
sink takes of all that it is offered, and the console behind these. -/
def Arrival.gathered (codec : Codec) (sink : LineSink τ) (arrivals : List Arrival)
    (console : τ) : Collector × τ :=
  let offered := sink.offerAll (offers codec arrivals) console
  (.ofFrames codec configRequestId (frames arrivals) offered.1, offered.2)

theorem Arrival.frames_concat_line (arrivals : List Arrival) (text : String) :
    frames (arrivals ++ [.line text]) = frames arrivals := by
  simp [frames, frame?]

theorem Arrival.frames_concat_frame (arrivals : List Arrival) (complete : Frame) :
    frames (arrivals ++ [.frame complete]) = frames arrivals ++ [complete] := by
  simp [frames, frame?]

theorem Arrival.gathered_line (codec : Codec) (sink : LineSink τ) (arrivals : List Arrival)
    (text : String) (console : τ) :
    gathered codec sink (arrivals ++ [.line text]) console =
      let before := gathered codec sink arrivals console
      before.1.forward sink text before.2 := by
  have oneMore : offers codec [.line text] = [text] := rfl
  simp only [gathered, Collector.forward_ofFrames, offers_append, oneMore,
    LineSink.offerAll_append, frames_concat_line]

theorem Arrival.gathered_frame (codec : Codec) (sink : LineSink τ) (arrivals : List Arrival)
    (complete : Frame) (console : τ) :
    gathered codec sink (arrivals ++ [.frame complete]) console =
      let before := gathered codec sink arrivals console
      before.1.receive codec sink complete before.2 := by
  simp only [gathered, Collector.receive_ofFrames, offers_append, offers_frame,
    LineSink.offerAll_append, frames_concat_frame]

/-- Attending arrivals, in closed form, with lines counted on their way to the console and
those of log records past that count. Once the two counts are added up, they make what the
arrivals handled come to. -/
theorem attend_gathered (codec : Codec) (sink : LineSink τ) (ending : Ending)
    (seen rest : List Arrival) (console : τ) (collector : Collector) (counted : Counted τ)
    (unresolved : codec.firstResolved? (Arrival.frames seen) = none)
    (gathered : collector.settle counted = Arrival.gathered codec sink seen console) :
    let attended := attend codec sink.counted sink.uncounted ending rest collector counted
    attended.1 =
        (if (codec.firstResolved? (Arrival.frames (seen ++ rest))).isSome then .resolved
          else ending.stop) ∧
      attended.2.1.settle attended.2.2 =
        Arrival.gathered codec sink (Arrival.handled codec (seen ++ rest)) console := by
  induction rest generalizing seen collector counted with
  | nil =>
      simp only [List.append_nil, attend, Arrival.handled, unresolved]
      exact ⟨rfl, gathered⟩
  | cons arrival rest ih =>
      rw [List.append_cons]
      cases arrival with
      | line text =>
          apply ih
          · rw [Arrival.frames_concat_line]
            exact unresolved
          · rw [Collector.settle_offer, gathered, Arrival.gathered_line]
      | frame complete =>
          have oneMore := Arrival.frames_concat_frame seen complete
          have decided := Codec.firstResolved?_concat unresolved complete
          rw [← oneMore] at decided
          -- What has been taken in with this frame, before and after adding up.
          have taken := collector.settle_receive codec sink complete counted
          rw [gathered, ← Arrival.gathered_frame] at taken
          have snapshot := congrArg (·.1.snapshot.isResolved) taken
          have resolves : (collector.receive codec sink.uncounted complete
              counted).1.snapshot.isResolved =
                codec.resolves (Arrival.frames (seen ++ [.frame complete])) := snapshot
          simp only [attend, resolves]
          split
          next resolved =>
            have found := decided.trans (if_pos resolved)
            have within : (Arrival.frames seen).length + 1 ≤
                (Arrival.frames (seen ++ [.frame complete])).length := by
              rw [oneMore, List.length_append]
              exact Nat.le_refl _
            have decisive : Arrival.through ((Arrival.frames seen).length + 1)
                (seen ++ [.frame complete] ++ rest) = seen ++ [.frame complete] := by
              rw [Arrival.through_append within, Arrival.through_concat_frame]
            have foundToo := Codec.firstResolved?_append found (Arrival.frames rest)
            rw [← Arrival.frames_append] at foundToo
            simp only [Arrival.handled, foundToo, decisive]
            exact ⟨rfl, taken⟩
          next unresolvedStill =>
            exact ih _ _ _ (decided.trans (if_neg unresolvedStill)) taken

/-- The report of what arrived. -/
def reported (codec : Codec) (sink : LineSink τ) (outcome : Outcome) (elapsed : Duration)
    (arrivals : List Arrival) (console : τ) : Report :=
  (Arrival.gathered codec sink arrivals console).1.report outcome elapsed

/-- What replaying a recording with this transcript has to give. Only the arrivals up to
the first frame that resolves the snapshot count; without such a frame everything counts,
and the source has to have come to its end. -/
def reference (codec : Codec) (sink : LineSink τ) (transcript : Transcript) (console : τ)
    (elapsed : Duration) : Except SessionError Report × τ :=
  let arrivals := Arrival.ofBytes transcript.bytes
  match codec.firstResolved? (Arrival.frames arrivals) with
  | some count =>
      let decisive := Arrival.through count arrivals
      (.ok (reported codec sink .completed elapsed decisive console),
        (sink.offerAll (Arrival.offers codec decisive) console).2)
  | none =>
      let result :=
        match transcript.ending with
        | .quiet | .failed .closed =>
            .ok (reported codec sink .endOfInput elapsed arrivals console)
        | .failed error => .error (.frame (.link error))
      (result, (sink.offerAll (Arrival.offers codec arrivals) console).2)

/-- Whether there is a report, and on what, does not depend on the sink. -/
theorem reference_handled (codec : Codec) (transcript : Transcript) :
    let handled := Arrival.handled codec (Arrival.ofBytes transcript.bytes)
    (∃ error, ∀ {τ : Type} (sink : LineSink τ) (console : τ) (elapsed : Duration),
      reference codec sink transcript console elapsed =
        (.error error, (sink.offerAll (Arrival.offers codec handled) console).2)) ∨
    (∃ outcome, ∀ {τ : Type} (sink : LineSink τ) (console : τ) (elapsed : Duration),
      reference codec sink transcript console elapsed =
        (.ok (reported codec sink outcome elapsed handled console),
          (sink.offerAll (Arrival.offers codec handled) console).2)) := by
  simp only [reference, Arrival.handled]
  cases codec.firstResolved? (Arrival.frames (Arrival.ofBytes transcript.bytes)) with
  | some count => exact .inr ⟨.completed, fun _ _ _ => rfl⟩
  | none =>
      rcases transcript.ending with _ | error
      · exact .inr ⟨.endOfInput, fun _ _ _ => rfl⟩
      · cases error with
        | closed => exact .inr ⟨.endOfInput, fun _ _ _ => rfl⟩
        | opening path cause => exact .inl ⟨_, fun _ _ _ => rfl⟩
        | io cause => exact .inl ⟨_, fun _ _ _ => rfl⟩

/-- A fresh exchange attends what its source brings. -/
theorem Exchange.follow_start (codec : Codec) (source : FiniteSource σ) (sink : LineSink τ)
    (state : σ) (console : τ) :
    let followed := (Exchange.start .standard state console).follow codec source sink.counted
      sink.uncounted
    let transcript := source.transcript (Receiver.new .standard).room state
    (followed.1, followed.2.collector, followed.2.reception.console) =
      attend codec sink.counted sink.uncounted transcript.ending
        (Arrival.ofBytes transcript.bytes) (.new configRequestId) ⟨console, 0⟩ :=
  Exchange.follow_eq_attended codec source sink.counted sink.uncounted
    (Exchange.start .standard state console)

/-- Following a source from the start stops at the frame that resolves the snapshot, or where
the source does, and comes to what the arrivals until then come to. -/
theorem Exchange.follow_gathered (codec : Codec) (source : FiniteSource σ) (sink : LineSink τ)
    (state : σ) (console : τ) :
    let followed := (Exchange.start .standard state console).follow codec source sink.counted
      sink.uncounted
    let transcript := source.transcript (Receiver.new .standard).room state
    let arrivals := Arrival.ofBytes transcript.bytes
    followed.1 =
        (if (codec.firstResolved? (Arrival.frames arrivals)).isSome then .resolved
          else transcript.ending.stop) ∧
      followed.2.collector.settle followed.2.reception.console =
        Arrival.gathered codec sink (Arrival.handled codec arrivals) console := by
  have attended := follow_start codec source sink state console
  have gathered := attend_gathered codec sink
    (source.transcript (Receiver.new .standard).room state).ending []
    (Arrival.ofBytes (source.transcript (Receiver.new .standard).room state).bytes) console
    (.new configRequestId) ⟨console, 0⟩ codec.firstResolved?_nil rfl
  rw [← attended] at gathered
  exact gathered

theorem replay_eq (codec : Codec) (source : FiniteSource σ) (sink : LineSink τ) (recording : σ)
    (console : τ) (elapsed : Duration) :
    replay codec source sink recording console elapsed =
      reference codec sink (source.transcript (Receiver.new .standard).room recording) console
        elapsed := by
  have followed := Exchange.follow_gathered codec source sink recording console
  rw [replay, reference]
  generalize (Exchange.start .standard recording console).follow codec source sink.counted
    sink.uncounted = result at followed ⊢
  generalize source.transcript (Receiver.new .standard).room recording = transcript at followed ⊢
  obtain ⟨stop, exchange⟩ := result
  obtain ⟨stopped, gathered⟩ := followed
  obtain ⟨collected, shown⟩ := Prod.mk.inj gathered
  cases found : codec.firstResolved?
      (Arrival.frames (Arrival.ofBytes transcript.bytes)) with
  | some count =>
      simp only [found, Option.isSome_some, ↓reduceIte, Arrival.handled] at stopped collected shown
      subst stopped
      simp only [Stop.replayed, Exchange.report, collected, shown, reported, Arrival.gathered]
  | none =>
      simp only [found, Option.isSome_none, Bool.false_eq_true, ↓reduceIte, Arrival.handled]
        at stopped collected shown
      subst stopped
      rcases transcript.ending with _ | ⟨_ | _ | _⟩ <;>
        simp only [Ending.stop, Stop.replayed, Exchange.report, collected, shown, reported,
          Arrival.gathered]

/-- A source at its end and one that gives no bytes end a recording alike. -/
theorem reference_closed (codec : Codec) (sink : LineSink τ) (bytes : List UInt8)
    (console : τ) (elapsed : Duration) :
    reference codec sink ⟨bytes, .failed .closed⟩ console elapsed =
      reference codec sink ⟨bytes, .quiet⟩ console elapsed := rfl

/-- Bytes that resolve the snapshot decide the report on their own. -/
theorem reference_resolved {codec : Codec} {seen : List UInt8} {count : Nat}
    (resolved : codec.firstResolved? (Arrival.frames (Arrival.ofBytes seen)) = some count)
    (sink : LineSink τ) (more : List UInt8) (ending : Ending) (console : τ)
    (elapsed : Duration) :
    let decisive := Arrival.through count (Arrival.ofBytes seen)
    (Arrival.frames decisive).length = count ∧
      reference codec sink ⟨seen ++ more, ending⟩ console elapsed =
        (.ok (reported codec sink .completed elapsed decisive console),
          (sink.offerAll (Arrival.offers codec decisive) console).2) := by
  obtain ⟨_, within, _⟩ := Codec.firstResolved?_eq_some.mp resolved
  obtain ⟨behind, arrivals⟩ := Arrival.ofBytes_append seen more
  constructor
  · rw [Arrival.frames_through]
    exact List.length_take_of_le within
  · simp only [reference, arrivals, Arrival.frames_append,
      Codec.firstResolved?_append resolved, Arrival.through_append within]

/-- A script of pieces that comes to its end, as the end of the script or as a read
without bytes, is replayed like its data. -/
theorem replay_script {source : FiniteSource Device} (scripted : source.Scripted)
    (codec : Codec) (sink : LineSink τ) {script rest : List ReadEvent}
    (steady : ∀ event ∈ script, source.GoesOn event)
    (ended : rest = [] ∨ ∃ more, rest = .data [] :: more) (console : τ) (elapsed : Duration) :
    replay codec source sink (.ofScript (script ++ rest)) console elapsed =
      reference codec sink ⟨Device.scriptData script, .quiet⟩ console elapsed := by
  rw [replay_eq, Device.ofScript]
  have positive : 0 < (Receiver.new .standard).room := Nat.le_max_right _ 1
  rcases scripted.stops_at_end positive ended with quiet | closed
  · rw [scripted.transcript_script positive steady quiet]
  · rw [scripted.transcript_script positive steady closed, reference_closed]

/-- Replaying a recording gives what its bytes have to give.

For every source, the report and the lines offered are those of the reference, which sees
the bytes that the source gives until it stops and the way in which it stops. A script
that cuts its data into pieces, with interruptions between them in a stream, is replayed
like the data. Once the bytes seen resolve the snapshot, they decide everything, and the
bytes and failures behind them nothing. -/
theorem replay_eq_reference :
    (∀ {σ τ : Type} (codec : Codec) (source : FiniteSource σ) (sink : LineSink τ)
      (recording : σ) (console : τ) (elapsed : Duration),
      replay codec source sink recording console elapsed =
        reference codec sink (source.transcript (Receiver.new .standard).room recording)
          console elapsed) ∧
    (∀ {τ : Type} {source : FiniteSource Device}, source.Scripted →
      ∀ (codec : Codec) (sink : LineSink τ) (script rest : List ReadEvent) (console : τ)
        (elapsed : Duration),
      (∀ event ∈ script, source.GoesOn event) →
      (rest = [] ∨ ∃ more, rest = .data [] :: more) →
      replay codec source sink (.ofScript (script ++ rest)) console elapsed =
        reference codec sink ⟨Device.scriptData script, .quiet⟩ console elapsed) ∧
    (∀ {σ τ : Type} (codec : Codec) (source : FiniteSource σ) (sink : LineSink τ)
      (recording : σ) (console : τ) (elapsed : Duration) (seen more : List UInt8)
      (ending : Ending) (count : Nat),
      source.transcript (Receiver.new .standard).room recording = ⟨seen ++ more, ending⟩ →
      codec.firstResolved? (Arrival.frames (Arrival.ofBytes seen)) = some count →
      let decisive := Arrival.through count (Arrival.ofBytes seen)
      (Arrival.frames decisive).length = count ∧
        replay codec source sink recording console elapsed =
          (.ok (reported codec sink .completed elapsed decisive console),
            (sink.offerAll (Arrival.offers codec decisive) console).2)) := by
  refine ⟨replay_eq, ?_, ?_⟩
  · intro τ source scripted codec sink script rest console elapsed steady ended
    exact replay_script scripted codec sink steady ended console elapsed
  · intro σ τ codec source sink recording console elapsed seen more ending count transcript
      resolved
    rw [replay_eq, transcript]
    exact reference_resolved resolved sink more ending console elapsed

/-- A radio names itself and its owner, prints a line and completes. -/
def sampleRecording : List UInt8 :=
  [0x94, 0xC3, 0, 4, 0x1A, 2, 8, 7,
    0x94, 0xC3, 0, 9, 0x22, 7, 8, 7, 0x12, 3, 0x0A, 1, 33,
    72, 105, 10,
    0x94, 0xC3, 0, 2, 0x38, 0x40]

/-- The sample, once cut in the middle of a frame with an interruption at the cut, and once
with more behind it and then a failure. -/
theorem replay_eq_reference_cut :
    replay .envelope .stream .collect (.ofScript
        ([.data (sampleRecording.take 15), .failure ⟨.interrupted, none⟩,
          .data (sampleRecording.drop 15)] ++ [])) [] .zero =
      reference .envelope .collect ⟨sampleRecording, .quiet⟩ [] .zero ∧
    ∃ report,
      replay .envelope .stream .collect (.ofScript
        ([.data (sampleRecording ++ [0x94])] ++ [.failure ⟨.permissionDenied, none⟩]))
          [] .zero = (.ok report, ["Hi"]) ∧
      report.outcome = .completed ∧ report.stats.frames = 3 := by
  constructor
  · exact replay_eq_reference.2.1 (.inr rfl) .envelope .collect _ [] [] .zero
      (by simp [FiniteSource.GoesOn, sampleRecording]) (.inl rfl)
  · have failing : ∀ reads, FiniteSource.stream.transcript (Receiver.new .standard).room
        ⟨[.failure ⟨.permissionDenied, none⟩], reads⟩ =
          ⟨[], .failed (.io ⟨.permissionDenied, none⟩)⟩ :=
      fun reads => FiniteSource.transcript_of_error rfl
    have steady : ∀ event ∈ [ReadEvent.data (sampleRecording ++ [0x94])],
        FiniteSource.stream.GoesOn event := by
      simp [FiniteSource.GoesOn]
    have replayed := replay_eq_reference.2.2 .envelope .stream .collect _ [] .zero
      sampleRecording [0x94] _ 3
      (FiniteSource.Scripted.transcript_script (.inr rfl) (by decide) steady failing 0)
      (by decide +kernel)
    have lines : (LineSink.collect.offerAll (Arrival.offers .envelope
        (Arrival.through 3 (Arrival.ofBytes sampleRecording))) []).2 = ["Hi"] := by
      decide +kernel
    rw [← lines]
    exact ⟨_, replayed.2, rfl, replayed.1⟩

end RadioSnapshot
