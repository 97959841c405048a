import RadioSnapshot.Proofs.Session.Recording
import RadioSnapshot.Proofs.Snapshot.Effect

/-!
# Messages that count as ignored

A report says how many messages were ignored. These are among the messages that left the
snapshot as it was, and the others of those said over again what it held: such a message is
not ignored, although it has no effect either.
-/

namespace RadioSnapshot

open Radio Snapshot

variable {σ τ : Type}

/-- The messages counted as ignored are the mergings that are. -/
theorem Snapshot.ignored_eq_countP (request : UInt32) (messages : List Message)
    (snapshot : Snapshot) :
    ignored request messages snapshot =
      (mergings request messages snapshot).countP Merging.isIgnored := by
  induction messages generalizing snapshot with
  | nil => rfl
  | cons message messages ih =>
      cases message with
      | logRecord record => exact ih snapshot
      | _ =>
          simp only [ignored, mergings, List.countP_cons, ih, Merging.isIgnored,
            decide_eq_true_iff]

/-- The mergings of the messages that frames carry. -/
def Radio.Codec.mergings (codec : Codec) (frames : List Frame) : List Merging :=
  Snapshot.mergings configRequestId (codec.messages frames) .empty

/-- The messages that leave the snapshot as it is are the ignored ones and the repetitions. -/
theorem Radio.Codec.countP_isUnchanged (codec : Codec) (frames : List Frame) :
    (codec.mergings frames).countP Merging.isUnchanged =
      ignored configRequestId (codec.messages frames) .empty +
        (codec.mergings frames).countP Merging.isRepeated := by
  rw [ignored_eq_countP]
  apply Snapshot.countP_isUnchanged
  intro merging member
  exact @told_of_mem_mergings configRequestId [] _ merging member

/-- A replay reports on the arrivals that it handles. -/
theorem replay_handled {codec : Codec} {source : FiniteSource σ} {sink : LineSink τ}
    {recording : σ} {console : τ} {elapsed : Duration} {report : Report}
    (given : (replay codec source sink recording console elapsed).1 = .ok report) :
    let transcript := source.transcript (Receiver.new .standard).room recording
    ∃ outcome, report = reported codec sink outcome elapsed
      (Arrival.handled codec (Arrival.ofBytes transcript.bytes)) console := by
  intro transcript
  rw [replay_eq] at given
  obtain ⟨error, failed⟩ | ⟨outcome, told⟩ := reference_handled codec transcript
  · rw [failed] at given
    cases given
  · rw [told] at given
    exact ⟨outcome, (Except.ok.inj given).symm⟩

/-- A message is ignored exactly when it leaves the snapshot as it is, unless it says over
again what the snapshot holds: such a message is applied, without any effect. So the ignored
messages of a replay and the repetitions among its messages are together those that left the
snapshot as it was, log records apart. -/
theorem ignored_iff_unchanged_unless_held (request : UInt32) (messages : List Message)
    (message : Message) (codec : Codec) (source : FiniteSource σ) (sink : LineSink τ)
    (recording : σ) (console : τ) (elapsed : Duration) :
    let snapshot := ofMessages request messages
    let (effect, after) := snapshot.apply request message
    let transcript := source.transcript (Receiver.new .standard).room recording
    let mergings := codec.mergings
      (Arrival.frames (Arrival.handled codec (Arrival.ofBytes transcript.bytes)))
    ((effect = .ignored ↔ after = snapshot) ↔ snapshot.holds message = false) ∧
      (snapshot.holds message = true → effect = .applied ∧ after = snapshot) ∧
      ∀ report, (replay codec source sink recording console elapsed).1 = .ok report →
        report.stats.ignoredMessages + mergings.countP Merging.isRepeated =
          mergings.countP Merging.isUnchanged := by
  intro snapshot
  have told := @told_apply request snapshot (sound_ofMessages request messages) message
  refine ⟨told.ignored_iff_unchanged, fun held => Prod.mk.inj (told.eq_of_holds held), ?_⟩
  intro report given
  obtain ⟨outcome, rfl⟩ := replay_handled given
  exact (codec.countP_isUnchanged _).symm

/-- A radio says twice who it is. -/
def repeatedIdentity : List UInt8 :=
  [0x94, 0xC3, 0, 4, 0x1A, 2, 8, 7, 0x94, 0xC3, 0, 4, 0x1A, 2, 8, 7]

/-- Of the two messages the second leaves the snapshot as it is, and none is ignored. -/
theorem ignored_iff_unchanged_unless_held_repeated :
    let mergings := Codec.envelope.mergings (Arrival.frames (Arrival.ofBytes repeatedIdentity))
    ∃ report,
      (replay .envelope .stream .collect (.ofScript [.data repeatedIdentity]) [] .zero).1 =
        .ok report ∧
      report.stats.ignoredMessages + mergings.countP Merging.isRepeated =
        mergings.countP Merging.isUnchanged ∧
      report.stats.ignoredMessages = 0 ∧ mergings.countP Merging.isUnchanged = 1 := by
  intro mergings
  have told : ((replay .envelope .stream .collect (.ofScript [.data repeatedIdentity]) []
      .zero).1.toOption.map (·.stats.ignoredMessages)) = some 0 := by
    decide +kernel
  have handled : Arrival.handled .envelope (Arrival.ofBytes (FiniteSource.stream.transcript
      (Receiver.new .standard).room (.ofScript [.data repeatedIdentity])).bytes) =
        Arrival.ofBytes repeatedIdentity := by
    decide +kernel
  rcases given : (replay .envelope .stream .collect (.ofScript [.data repeatedIdentity]) []
      .zero).1 with error | report
  · rw [given] at told
    cases told
  · rw [given] at told
    obtain ⟨_, _, counted⟩ := ignored_iff_unchanged_unless_held configRequestId [] (.other .packet)
      .envelope .stream .collect (.ofScript [.data repeatedIdentity]) [] .zero
    have balance := counted report given
    rw [handled] at balance
    exact ⟨report, rfl, balance, Option.some.inj told, by decide +kernel⟩

/-- An identity that is told a second time is applied, and nothing changes. -/
theorem repeated_identity_applied :
    let identity := Message.nodeIdentity (7, 0, 0, [], "", ())
    let snapshot := ofMessages configRequestId [identity]
    snapshot.apply configRequestId identity = (.applied, snapshot) := by
  decide

end RadioSnapshot
