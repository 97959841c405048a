import RadioSnapshot.Proofs.Session.Recording

/-!
# Following any link

An exchange is followed step by step over a link of which nothing more is known than that
it gives no more bytes than it is asked for. It may go on for ever. If it comes to an end,
it has read the link finitely often, and the answers that it got, taken down and replayed,
lead to the same end. So what is known of replaying finite sources holds of every link that
is followed to an end.
-/

namespace RadioSnapshot

open Radio

variable {σ τ : Type}

/-- A link that gives no more bytes than it is asked for. -/
def LinkRead.WithinRoom (read : LinkRead σ) : Prop :=
  ∀ room state data next, read room state = (.ok data, next) → data.length ≤ room

namespace Exchange

/-- Following a link from an exchange stops in this way and leaves this exchange behind. -/
inductive Follows (codec : Codec) (read : LinkRead σ) (text records : LineSink τ) :
    Exchange σ τ → Stop → Exchange σ τ → Prop where
  | fails {exchange : Exchange σ τ} {error : FrameError} {after : Reception σ τ} :
      exchange.reception.nextFrom read text = (.error error, after) →
      Follows codec read text records exchange (.failed error) ⟨after, exchange.collector⟩
  | quiet {exchange : Exchange σ τ} {after : Reception σ τ} :
      exchange.reception.nextFrom read text = (.ok none, after) →
      after.receiver.idle = true →
      Follows codec read text records exchange .quiet ⟨after, exchange.collector⟩
  | goesOn {exchange last : Exchange σ τ} {stop : Stop} {after : Reception σ τ} :
      exchange.reception.nextFrom read text = (.ok none, after) →
      after.receiver.idle = false →
      Follows codec read text records ⟨after, exchange.collector⟩ stop last →
      Follows codec read text records exchange stop last
  | resolves {exchange : Exchange σ τ} {frame : Frame} {receiver : Receiver} {state : σ}
      {before console : τ} {collector : Collector} :
      exchange.reception.nextFrom read text = (.ok (some frame), ⟨receiver, state, before⟩) →
      exchange.collector.receive codec records frame before = (collector, console) →
      collector.snapshot.isResolved = true →
      Follows codec read text records exchange .resolved ⟨⟨receiver, state, console⟩, collector⟩
  | receives {exchange last : Exchange σ τ} {stop : Stop} {frame : Frame} {receiver : Receiver}
      {state : σ} {before console : τ} {collector : Collector} :
      exchange.reception.nextFrom read text = (.ok (some frame), ⟨receiver, state, before⟩) →
      exchange.collector.receive codec records frame before = (collector, console) →
      collector.snapshot.isResolved = false →
      Follows codec read text records ⟨⟨receiver, state, console⟩, collector⟩ stop last →
      Follows codec read text records exchange stop last

/-- One round of following a finite source. -/
theorem follow_eq_next (codec : Codec) (source : FiniteSource σ) (text records : LineSink τ)
    (exchange : Exchange σ τ) :
    exchange.follow codec source text records =
      match exchange.reception.next source text with
      | (.error error, after) => (.failed error, ⟨after, exchange.collector⟩)
      | (.ok none, after) =>
          if after.receiver.idle then (.quiet, ⟨after, exchange.collector⟩)
          else follow codec source text records ⟨after, exchange.collector⟩
      | (.ok (some frame), after) =>
          let taken := exchange.collector.receive codec records frame after.console
          let next : Exchange σ τ := ⟨{ after with console := taken.2 }, taken.1⟩
          if taken.1.snapshot.isResolved then (.resolved, next)
          else follow codec source text records next := by
  rw [follow]
  split <;> simp_all

/-- A finite source is always followed to an end, and to the one that is computed. -/
theorem follows_iff (codec : Codec) (source : FiniteSource σ) (text records : LineSink τ)
    (exchange last : Exchange σ τ) (stop : Stop) :
    Follows codec source.read text records exchange stop last ↔
      exchange.follow codec source text records = (stop, last) := by
  constructor
  · intro follows
    induction follows with
    | fails step => rw [follow_eq_next, Reception.next, step]
    | quiet step idle =>
        rw [follow_eq_next, Reception.next, step]
        exact if_pos idle
    | goesOn step active _ ih =>
        rw [follow_eq_next, Reception.next, step]
        exact (if_neg (Bool.eq_false_iff.mp active)).trans ih
    | resolves step taken resolved =>
        rw [follow_eq_next, Reception.next, step]
        simp only [taken]
        exact if_pos resolved
    | receives step taken unresolved _ ih =>
        rw [follow_eq_next, Reception.next, step]
        simp only [taken]
        exact (if_neg (Bool.eq_false_iff.mp unresolved)).trans ih
  · intro computed
    fun_induction follow codec source text records exchange with
    | case1 exchange error after step =>
        obtain ⟨rfl, rfl⟩ := Prod.mk.inj computed
        exact .fails step
    | case2 exchange after step idle =>
        obtain ⟨rfl, rfl⟩ := Prod.mk.inj computed
        exact .quiet step idle
    | case3 exchange after step active ih =>
        exact .goesOn step (Bool.eq_false_iff.mpr active) (ih computed)
    | case4 exchange complete after step taken next resolved =>
        obtain ⟨rfl, rfl⟩ := Prod.mk.inj computed
        exact .resolves step rfl resolved
    | case5 exchange complete after step taken next unresolved ih =>
        exact .receives step rfl (Bool.eq_false_iff.mpr unresolved) (ih computed)

end Exchange

/-! ## Answers taken down -/

/-- What a link answers when it is read. -/
abbrev LinkAnswer : Type :=
  Except LinkError (List UInt8)

namespace LinkAnswer

/-- The number of bytes in answers. -/
def supply (answers : List LinkAnswer) : Nat :=
  (FiniteSource.received answers).length

/-- Give one answer after the other, each cut to the room that there is, and then nothing. -/
def giveOut (room : Nat) : List LinkAnswer → LinkAnswer × List LinkAnswer
  | [] => (.ok [], [])
  | answer :: rest => (answer.map (·.take room), rest)

end LinkAnswer

/-- The source that gives answers that were taken down. -/
def FiniteSource.recorded : FiniteSource (List LinkAnswer) where
  read := LinkAnswer.giveOut
  supply := LinkAnswer.supply
  length_le_room room answers data next read := by
    rcases answers with _ | ⟨error | bytes, rest⟩
    · obtain ⟨rfl, -⟩ : [] = data ∧ [] = next := by simpa [LinkAnswer.giveOut] using read
      exact Nat.zero_le room
    · simp [LinkAnswer.giveOut, Except.map] at read
    · obtain ⟨rfl, -⟩ : bytes.take room = data ∧ rest = next := by
        simpa [LinkAnswer.giveOut, Except.map] using read
      exact List.length_take_le room bytes
  supply_read room answers data next read := by
    rcases answers with _ | ⟨error | bytes, rest⟩
    · obtain ⟨rfl, rfl⟩ : [] = data ∧ [] = next := by simpa [LinkAnswer.giveOut] using read
      exact Nat.le_refl _
    · simp [LinkAnswer.giveOut, Except.map] at read
    · obtain ⟨rfl, rfl⟩ : bytes.take room = data ∧ rest = next := by
        simpa [LinkAnswer.giveOut, Except.map] using read
      have shorter := List.length_take_le' room bytes
      simp only [LinkAnswer.supply, FiniteSource.received, List.flatMap_cons,
        FiniteSource.bytesOf, List.length_append]
      omega

/-- A call that a link answers goes the same way with what it answered taken down. -/
theorem Reception.nextFrom_recorded {read : LinkRead σ} (within : read.WithinRoom)
    (sink : LineSink τ) {reception after : Reception σ τ}
    {result : Except FrameError (Option Frame)}
    (step : reception.nextFrom read sink = (result, after)) :
    ∃ answered : List LinkAnswer, ∀ rest,
      nextFrom FiniteSource.recorded.read sink
          ⟨reception.receiver, answered ++ rest, reception.console⟩ =
        (result, ⟨after.receiver, rest, after.console⟩) := by
  simp only [nextFrom] at step ⊢
  rcases drained : reception.receiver.drainHeld sink reception.console with
    ⟨_ | frame, receiver, console⟩ <;> simp only [drained] at step ⊢
  · simp only [readOn] at step ⊢
    rcases answer : read (max receiver.limits.chunk 1) reception.source with
      ⟨error | data, state⟩ <;> simp only [answer] at step
    · obtain ⟨rfl, rfl⟩ := Prod.mk.inj step
      exact ⟨[.error error], fun rest => rfl⟩
    · refine ⟨[.ok data], fun rest => ?_⟩
      have whole : data.take (max receiver.limits.chunk 1) = data :=
        List.take_of_length_le (within _ _ _ _ answer)
      have given : FiniteSource.recorded.read (max receiver.limits.chunk 1)
          ([.ok data] ++ rest) = (.ok data, rest) := by
        simp only [FiniteSource.recorded, LinkAnswer.giveOut, List.cons_append, List.nil_append,
          Except.map, whole]
      simp only [given]
      split at step
      next nothing =>
        obtain ⟨rfl, rfl⟩ := Prod.mk.inj step
        exact if_pos nothing
      next something =>
        obtain ⟨rfl, rfl⟩ := Prod.mk.inj step
        exact if_neg something
  · obtain ⟨rfl, rfl⟩ := Prod.mk.inj step
    exact ⟨[], fun rest => rfl⟩

/-- An exchange with a source of another kind. -/
def Exchange.withSource {σ σ' τ : Type} (source : σ') (exchange : Exchange σ τ) : Exchange σ' τ :=
  ⟨⟨exchange.reception.receiver, source, exchange.reception.console⟩, exchange.collector⟩

/-- The answers of a link that is followed to an end lead there again. -/
theorem Exchange.Follows.recorded {codec : Codec} {read : LinkRead σ} {text records : LineSink τ}
    {exchange last : Exchange σ τ} {stop : Stop} (within : read.WithinRoom)
    (follows : Follows codec read text records exchange stop last) :
    ∃ answers, (exchange.withSource answers).follow codec .recorded text records =
      (stop, last.withSource []) := by
  simp only [← follows_iff]
  induction follows with
  | fails step =>
      obtain ⟨answered, again⟩ := Reception.nextFrom_recorded within text step
      exact ⟨answered ++ [], .fails (again [])⟩
  | quiet step idle =>
      obtain ⟨answered, again⟩ := Reception.nextFrom_recorded within text step
      exact ⟨answered ++ [], .quiet (again []) idle⟩
  | goesOn step active _ ih =>
      obtain ⟨answered, again⟩ := Reception.nextFrom_recorded within text step
      obtain ⟨answers, onwards⟩ := ih
      exact ⟨answered ++ answers, .goesOn (again answers) active onwards⟩
  | resolves step taken resolved =>
      obtain ⟨answered, again⟩ := Reception.nextFrom_recorded within text step
      exact ⟨answered ++ [], .resolves (again []) taken resolved⟩
  | receives step taken unresolved _ ih =>
      obtain ⟨answered, again⟩ := Reception.nextFrom_recorded within text step
      obtain ⟨answers, onwards⟩ := ih
      exact ⟨answered ++ answers, .receives (again answers) taken unresolved onwards⟩

/-- A recording read from any link, if it is followed to an end, is replayed like the answers
of that link, and so comes to what the bytes in them come to. -/
theorem replayed_recorded {codec : Codec} {read : LinkRead σ} {sink : LineSink τ} {state : σ}
    {console : τ} {stop : Stop} {last : Exchange σ (Counted τ)} (within : read.WithinRoom)
    (follows : Exchange.Follows codec read sink.counted sink.uncounted
      (.start .standard state console) stop last) :
    ∃ answers, ∀ elapsed,
      (stop.replayed elapsed last, last.reception.console.console) =
        replay codec .recorded sink answers console elapsed ∧
      (stop.replayed elapsed last, last.reception.console.console) =
        reference codec sink
          (FiniteSource.recorded.transcript (Receiver.new .standard).room answers) console
          elapsed := by
  obtain ⟨answers, again⟩ := follows.recorded within
  refine ⟨answers, fun elapsed => ?_⟩
  have replayed : (stop.replayed elapsed last, last.reception.console.console) =
      replay codec .recorded sink answers console elapsed := by
    have followed : (Exchange.start .standard answers console).follow codec .recorded
        sink.counted sink.uncounted = (stop, last.withSource []) := again
    rw [replay, followed]
    rfl
  exact ⟨replayed, replayed.trans (replay_eq codec .recorded sink answers console elapsed)⟩

end RadioSnapshot
