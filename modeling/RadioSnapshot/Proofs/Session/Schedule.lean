import Mathlib.Logic.Relation
import RadioSnapshot.Proofs.Frame.Extraction
import RadioSnapshot.Proofs.Session.Gathering
import RadioSnapshot.Session.Interleaving

/-!
# A schedule for sessions

Running a session in one go is one of the interleavings: the reader is let go on only when
the session has taken everything out of the queues, and the time is over when the link has
nothing more to give.
-/

namespace RadioSnapshot

open Radio Relation

variable {σ κ τ : Type}

namespace Session

/-- Some steps lead from one session to another. -/
abbrev Leads (setup : SessionSetup σ κ τ) : Session σ κ τ → Session σ κ τ → Prop :=
  ReflTransGen fun before after => ∃ event, Step setup before event after

theorem Leads.exists_run {setup : SessionSetup σ κ τ} {first last : Session σ κ τ}
    (leads : Leads setup first last) : ∃ events, Run setup first events last := by
  induction leads with
  | refl => exact ⟨[], .refl⟩
  | tail _ step ih =>
      obtain ⟨events, run⟩ := ih
      obtain ⟨event, step⟩ := step
      exact ⟨events ++ [event], run.step step⟩

theorem Run.trans {setup : SessionSetup σ κ τ} {first middle last : Session σ κ τ}
    {events more : List SessionEvent} (run : Run setup first events middle)
    (further : Run setup middle more last) : Run setup first (events ++ more) last := by
  induction further with
  | refl =>
      rw [List.append_nil]
      exact run
  | step _ step ih =>
      rw [← List.append_assoc]
      exact ih.step step

/-- A session that has taken everything out of its queues, and has counted the lines that were
counted on their way. -/
def attentive (settings : SessionSettings) (transmitter : Transmitter κ) (phase : ReaderPhase)
    (reception : Reception σ (Counted τ)) (collector : Collector) : Session σ κ τ where
  phase := .following true
  transmitter := transmitter
  reader := ⟨reception.receiver.unrefused, reception.source, phase⟩
  queues := ⟨.empty settings.frameQueue, .empty settings.lineQueue⟩
  collector := (collector.settle reception.console).1
  console := (collector.settle reception.console).2

variable (setup : SessionSetup σ κ τ) (transmitter : Transmitter κ) (collector : Collector)

/-- Lines that the reader offers one by one are shown one by one. `phase` says where the
reader is with some lines left. -/
theorem leads_lines (phase : List String → ReaderPhase)
    (offer : ∀ {reader : Reader σ} {queues : Queues} {line : String} {lines : List String},
      reader.phase = phase (line :: lines) →
      Reader.Step setup.read reader queues .internal { reader with phase := phase lines }
        { queues with lines := (queues.lines.offer line).2 })
    (lines : List String) (receiver : Receiver) (state : σ) (console : Counted τ) :
    Leads setup
      (attentive setup.settings transmitter (phase lines) ⟨receiver, state, console⟩ collector)
      (attentive setup.settings transmitter (phase [])
        ⟨receiver, state, (setup.sink.counted.offerAll lines console).2⟩ collector) := by
  induction lines generalizing console with
  | nil => exact .refl
  | cons line lines ih =>
      -- Each line finds the queue empty, and is taken however short the queue is.
      have put : ((LineQueue.empty setup.settings.lineQueue).offer line).2 =
          { LineQueue.empty setup.settings.lineQueue with lines := [line] } := by
        rw [LineQueue.offer,
          if_pos ⟨rfl, Nat.lt_of_lt_of_le Nat.one_pos (Nat.le_max_right _ 1)⟩]
        rfl
      have offered : Step setup
          (attentive setup.settings transmitter (phase (line :: lines)) ⟨receiver, state, console⟩
            collector) .internal
          { attentive setup.settings transmitter (phase lines) ⟨receiver, state, console⟩
              collector with
            queues.lines.lines := [line] } := by
        have step : Step setup (attentive setup.settings transmitter (phase (line :: lines))
            ⟨receiver, state, console⟩ collector) .internal _ := .reader (offer rfl)
        have room : (attentive setup.settings transmitter (phase (line :: lines))
            ⟨receiver, state, console⟩ collector).queues.lines =
            .empty setup.settings.lineQueue := rfl
        rw [room, put] at step
        exact step
      have counted := collector.settle_offer setup.sink line console
      have shown := ih (setup.sink.counted.offer line console).2
      exact .head ⟨_, offered⟩ (.head ⟨_, .showLine rfl rfl counted.symm⟩ shown)

/-- The reader offers the last lines of a call and ends it. -/
theorem leads_return (lines : List String) (result : Except FrameError (Option Frame))
    (receiver : Receiver) (state : σ) (console : Counted τ) :
    Leads setup
      (attentive setup.settings transmitter (.returning lines result) ⟨receiver, state, console⟩
        collector)
      (attentive setup.settings transmitter (.afterCall result)
        ⟨receiver, state, (setup.sink.counted.offerAll lines console).2⟩ collector) :=
  (leads_lines setup transmitter collector (.returning · result) .offer lines receiver state
    console).tail ⟨_, .reader (.finish rfl)⟩

/-- The reader reads its link, offers the lines that this completes and ends the call. -/
theorem leads_read (reception : Reception σ (Counted τ)) :
    let come := reception.readOn setup.read setup.sink.counted
    Leads setup (attentive setup.settings transmitter (.reading []) reception collector)
      (attentive setup.settings transmitter (.afterCall come.1) come.2 collector) := by
  obtain ⟨lines, near, far⟩ :=
    Reception.readOn_collect setup.read setup.sink.counted reception []
  intro come
  have read : Step setup (attentive setup.settings transmitter (.reading []) reception collector)
      (.called come.1)
      (attentive setup.settings transmitter (.returning lines come.1)
        ⟨come.2.receiver, come.2.source, reception.console⟩ collector) :=
    .reader (.read rfl near)
  have behind := leads_return setup transmitter collector lines come.1 come.2.receiver come.2.source
    reception.console
  rw [← far.offered] at behind
  exact .head ⟨_, read⟩ behind

/-- The reader makes a call, and the session shows all lines meanwhile. -/
theorem leads_call (reception : Reception σ (Counted τ)) :
    let called := reception.nextFrom setup.read setup.sink.counted
    Leads setup (attentive setup.settings transmitter .ready reception collector)
      (attentive setup.settings transmitter (.afterCall called.1) called.2 collector) := by
  obtain ⟨lines, near, far⟩ := Receiver.drain_collect setup.sink.counted
    reception.receiver.held reception.receiver reception.console []
  simp only [Reception.nextFrom, Receiver.drainHeld]
  rcases drained : reception.receiver.drain setup.sink.counted reception.receiver.held
    reception.console with ⟨_ | frame, receiver, console⟩ <;>
    simp only [drained, List.nil_append] at near far ⊢
  · have missed : Step setup (attentive setup.settings transmitter .ready reception collector)
        .internal
        (attentive setup.settings transmitter (.reading lines)
          ⟨receiver, reception.source, reception.console⟩ collector) :=
      .reader (.miss rfl rfl near)
    have ahead := leads_lines setup transmitter collector .reading .offerAhead lines receiver
      reception.source reception.console
    rw [← far.offered] at ahead
    exact .head ⟨_, missed⟩
      (ahead.trans (leads_read setup transmitter collector ⟨receiver, reception.source, console⟩))
  · have found : Step setup (attentive setup.settings transmitter .ready reception collector)
        (.called (.ok (some frame)))
        (attentive setup.settings transmitter (.returning lines (.ok (some frame)))
          ⟨receiver, reception.source, reception.console⟩ collector) :=
      .reader (.find rfl rfl near)
    have behind := leads_return setup transmitter collector lines (.ok (some frame)) receiver
      reception.source reception.console
    rw [← far.offered] at behind
    exact .head ⟨_, found⟩ behind

/-- A call of a source that is read like the link. -/
theorem leads_next {source : FiniteSource σ} (same : setup.read = source.read)
    {reception after : Reception σ (Counted τ)} {result : Except FrameError (Option Frame)}
    (step : reception.next source setup.sink.counted = (result, after)) :
    Leads setup (attentive setup.settings transmitter .ready reception collector)
      (attentive setup.settings transmitter (.afterCall result) after collector) := by
  have called := leads_call setup transmitter collector reception
  rw [same, ← Reception.next, step] at called
  exact called

/-- The reader puts an item into the queue, which has room for it. -/
theorem step_send (item : Except FrameError Frame) (reception : Reception σ (Counted τ)) :
    Step setup (attentive setup.settings transmitter (.sending item) reception collector) .internal
      { attentive setup.settings transmitter (.afterSending item) reception collector with
        queues.frames.items := [item] } := by
  have room : (FrameQueue.empty setup.settings.frameQueue).HasRoom :=
    Nat.lt_of_lt_of_le Nat.one_pos (Nat.le_max_right _ 1)
  exact .reader (.send rfl rfl room)

end Session

/-- What a session comes to when following its link has stopped. -/
def Stop.conclude (settings : SessionSettings) (exchange : Exchange σ (Counted τ)) :
    Stop → Except SessionError Report
  | .resolved => .ok (exchange.report .completed settings.settle)
  | .quiet => .ok (exchange.report .timedOut (settings.settle.longer settings.deadline))
  | .failed error => .error (.frame error)

namespace Session

/-- The session follows its link until that stops. -/
theorem leads_follow (setup : SessionSetup σ κ τ) (transmitter : Transmitter κ)
    (source : FiniteSource σ) (same : setup.read = source.read)
    (exchange : Exchange σ (Counted τ)) :
    let (stop, last) := exchange.follow setup.codec source setup.sink.counted
      setup.sink.uncounted
    ∃ after : Session σ κ τ,
      Leads setup
        (attentive setup.settings transmitter .ready exchange.reception exchange.collector) after ∧
      after.phase = .ended (stop.conclude setup.settings last) ∧
      after.transmitter = transmitter ∧ after.console = last.reception.console.console := by
  -- Along the recursion of `follow`: a call is many steps, what becomes of its result one.
  fun_induction Exchange.follow setup.codec source setup.sink.counted setup.sink.uncounted exchange
    with
  | case1 exchange error after step =>
      have called := leads_next setup transmitter exchange.collector same step
      have sent := step_send setup transmitter exchange.collector (.error error) after
      exact ⟨_, (called.tail ⟨_, sent⟩).tail ⟨_, .fail rfl rfl⟩, rfl, rfl, rfl⟩
  | case2 exchange after step idle =>
      have called := leads_next setup transmitter exchange.collector same step
      exact ⟨_, called.tail ⟨_, .timeOut rfl _⟩, rfl, rfl, rfl⟩
  | case3 exchange after step active ih =>
      have called := leads_next setup transmitter exchange.collector same step
      obtain ⟨last, leads, concluded⟩ := ih
      exact ⟨last, called.trans leads, concluded⟩
  | case4 exchange frame after step taken next resolved =>
      have called := leads_next setup transmitter exchange.collector same step
      have sent := step_send setup transmitter exchange.collector (.ok frame) after
      have received : (exchange.collector.settle after.console).1.receive setup.codec setup.sink
          frame (exchange.collector.settle after.console).2 =
            (taken.1.countLines taken.2.taken, taken.2.console) :=
        (exchange.collector.settle_receive setup.codec setup.sink frame after.console).symm
      have resolvedToo : (taken.1.countLines taken.2.taken).snapshot.isResolved = true := resolved
      exact ⟨_, (called.tail ⟨_, sent⟩).tail ⟨_, .complete rfl rfl received resolvedToo _⟩,
        rfl, rfl, rfl⟩
  | case5 exchange frame after step taken next unresolved ih =>
      have called := leads_next setup transmitter exchange.collector same step
      have sent := step_send setup transmitter exchange.collector (.ok frame) after
      have received : (exchange.collector.settle after.console).1.receive setup.codec setup.sink
          frame (exchange.collector.settle after.console).2 =
            (taken.1.countLines taken.2.taken, taken.2.console) :=
        (exchange.collector.settle_receive setup.codec setup.sink frame after.console).symm
      obtain ⟨last, leads, concluded⟩ := ih
      have handled := (called.tail ⟨_, sent⟩).tail
        ⟨_, .receive rfl rfl received (Bool.eq_false_iff.mpr unresolved)⟩
      exact ⟨last, handled.trans leads, concluded⟩

/-- Running a session in one go gives what it gives with some order of its steps. -/
theorem exists_run_runSession (setup : SessionSetup σ κ τ) (source : FiniteSource σ)
    (same : setup.read = source.read) (link : κ) (radio : σ) (console : τ) :
    let ran :=
      runSession setup.settings setup.codec setup.outlet source setup.sink link radio console
    ∃ (events : List SessionEvent) (session : Session σ κ τ),
      Run setup (.start setup.settings radio link console) events session ∧
      session.phase = .ended ran.1 ∧ session.transmitter.link = ran.2.1 ∧
      session.console = ran.2.2 ∧
      ((sendRequest setup.settings setup.codec setup.outlet (.new link)).1 = .ok () →
        .requested ∈ events) := by
  have begun : Run setup (.start setup.settings radio link console) [] _ := .refl
  rcases woken : wakeRadio setup.settings setup.outlet (.new link) with ⟨error | _, awake⟩
  · simp only [runSession, sendRequest, woken]
    exact ⟨_, _, begun.step (.wakeFails rfl woken), rfl, rfl, rfl, nofun⟩
  have started := (begun.step (.wake rfl woken)).step (.startReader rfl)
  rcases asked : askRadio setup.codec setup.outlet awake with ⟨error | _, written⟩
  · simp only [runSession, sendRequest, woken, asked]
    exact ⟨_, _, started.step (.askFails rfl asked), rfl, rfl, rfl, nofun⟩
  have following := started.step (.ask rfl asked)
  by_cases late : setup.settings.deadline.nanoseconds ≤ setup.settings.settle.nanoseconds
  · simp only [runSession, sendRequest, woken, asked, if_pos late]
    exact ⟨_, _, following.step (.timeOut rfl _), rfl, rfl, rfl, fun _ => by simp⟩
  · obtain ⟨last, leads, ended, kept, sameConsole⟩ :=
      leads_follow setup written source same (Exchange.start .standard radio console)
    obtain ⟨events, run⟩ := leads.exists_run
    simp only [runSession, sendRequest, woken, asked, if_neg late]
    refine ⟨_, last, following.trans run, ?_, congrArg Transmitter.link kept, sameConsole,
      fun _ => by simp⟩
    rw [ended]
    cases ((Exchange.start .standard radio console).follow setup.codec source
      setup.sink.counted setup.sink.uncounted).1 <;> rfl

end Session

end RadioSnapshot
