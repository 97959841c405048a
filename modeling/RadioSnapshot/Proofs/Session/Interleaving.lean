import RadioSnapshot.Proofs.Session.Conservation
import RadioSnapshot.Proofs.Session.Gathering

/-!
# What holds throughout a session

At any time the reader stands behind the calls that it has made, no frame is lost on its
way, and the collector has gathered from the frames handled. How a session has ended says
which frames these are: up to the one that resolves the snapshot, some that do not resolve
it, or all of those in front of a failure.
-/

namespace RadioSnapshot

open Radio SessionEvent

variable {σ κ τ : Type}

/-! ## The reader calls its receiver -/

/-- The reader has made the calls that have led the receiver and its link this far, or is
in the middle of the next one. -/
def Reader.StandsBehind (read : LinkRead σ) (receiver : Receiver) (state : σ)
    (reader : Reader σ) : Prop :=
  reader.source = state ∧
    match reader.phase with
    | .reading _ => reader.receiver.unrefused = reader.receiver ∧
        ∃ lines, Reception.nextFrom read .collect ⟨receiver, state, []⟩ =
          Reception.readOn read .collect ⟨reader.receiver, state, lines⟩
    | _ => reader.receiver = receiver

/-- A step stays in the same call, or ends it. -/
theorem Reader.Step.standsBehind {read : LinkRead σ} {reader after : Reader σ}
    {queues later : Queues} {event : SessionEvent}
    (step : Reader.Step read reader queues event after later) {receiver : Receiver} {state : σ}
    (unrefused : receiver.unrefused = receiver)
    (stands : reader.StandsBehind read receiver state) :
    match event.result? with
    | none => after.StandsBehind read receiver state
    | some result => ∃ next, Reception.nextFrom read .collect ⟨receiver, state, []⟩ =
        (result, next) ∧ after.StandsBehind read next.receiver next.source := by
  obtain ⟨rfl, stands⟩ := stands
  cases step with
  | leave ready =>
      rw [ready] at stands
      exact ⟨rfl, stands⟩
  | @find frame found lines ready _ drained =>
      rw [ready] at stands
      subst stands
      exact ⟨⟨found, _, lines⟩, by simp only [Reception.nextFrom, drained], rfl, rfl⟩
  | @miss found lines ready _ drained =>
      rw [ready] at stands
      subst stands
      -- The call goes on at the read, with the lines of its first half set aside.
      have kept := Receiver.drain_unrefused unrefused reader.receiver.held []
      rw [← Receiver.drainHeld, drained] at kept
      exact ⟨rfl, kept, lines, by simp only [Reception.nextFrom, drained]⟩
  | offerAhead reading =>
      rw [reading] at stands
      exact ⟨rfl, stands⟩
  | read reading come =>
      rw [reading] at stands
      obtain ⟨kept, lines, call⟩ := stands
      obtain ⟨console, same⟩ := Reception.readOn_aside read kept reader.source lines
      rw [come] at same
      exact ⟨_, call.trans same, rfl, rfl⟩
  | offer returning =>
      rw [returning] at stands
      exact ⟨rfl, stands⟩
  | @finish result returning =>
      rw [returning] at stands
      rcases result with error | _ | frame <;> exact ⟨rfl, stands⟩
  | @send item sending =>
      rw [sending] at stands
      cases item <;> exact ⟨rfl, stands⟩
  | giveUp sending =>
      rw [sending] at stands
      exact ⟨rfl, stands⟩

/-- The calls of which the events tell are those that the receiver makes on its own, and the
reader is just behind them. -/
def Reader.Extracted (read : LinkRead σ) (source : σ) (events : List SessionEvent)
    (reader : Reader σ) : Prop :=
  ∃ (receiver : Receiver) (state : σ),
    Receiver.extraction read (results events).length (.new .standard) source =
      (results events, receiver, state) ∧
    receiver.unrefused = receiver ∧ reader.StandsBehind read receiver state

theorem Reader.Extracted.aside {read : LinkRead σ} {source : σ} {events : List SessionEvent}
    {event : SessionEvent} {reader : Reader σ}
    (extracted : reader.Extracted read source events) (uncalled : event.result? = none) :
    reader.Extracted read source (events ++ [event]) := by
  rw [Reader.Extracted, results_aside uncalled]
  exact extracted

/-- Starting a reader changes nothing yet. -/
theorem Reader.Extracted.begin {read : LinkRead σ} {source : σ} {events : List SessionEvent}
    {reader : Reader σ} (extracted : reader.Extracted read source events)
    (unstarted : reader.phase = .unstarted) :
    Reader.Extracted read source events { reader with phase := .ready } := by
  obtain ⟨receiver, state, calls, unrefused, sameState, stands⟩ := extracted
  rw [unstarted] at stands
  exact ⟨receiver, state, calls, unrefused, sameState, stands⟩

theorem Reader.Extracted.step {read : LinkRead σ} {source : σ} {events : List SessionEvent}
    {event : SessionEvent} {reader after : Reader σ} {queues later : Queues}
    (extracted : reader.Extracted read source events)
    (step : Reader.Step read reader queues event after later) :
    after.Extracted read source (events ++ [event]) := by
  obtain ⟨receiver, state, calls, unrefused, stands⟩ := extracted
  have moved := step.standsBehind unrefused stands
  cases called : event.result? with
  | none =>
      rw [called] at moved
      exact Reader.Extracted.aside ⟨receiver, state, calls, unrefused, moved⟩ called
  | some result =>
      rw [called] at moved
      obtain ⟨next, call, stands⟩ := moved
      have kept := Reception.nextFrom_unrefused read unrefused state []
      rw [call] at kept
      refine ⟨next.receiver, next.source, ?_, kept, stands⟩
      rw [results_concat, called, Option.toList_some, List.length_append, List.length_singleton,
        Receiver.extraction_succ, calls]
      simp only [call]

/-! ## The session handles what comes out -/

/-- The request is not out, and no frame has been taken. -/
def SessionEvent.Early (events : List SessionEvent) : Prop :=
  taken events = [] ∧ .requested ∉ events

theorem SessionEvent.Early.wait {events : List SessionEvent} (early : Early events) :
    Early (events ++ [.internal]) := by
  obtain ⟨nothing, unasked⟩ := early
  constructor
  · rw [taken_concat, nothing]
    rfl
  · intro asked
    rcases List.mem_append.mp asked with before | now
    · exact unasked before
    · cases List.mem_singleton.mp now

/-- What the events so far say of a session at this point. -/
def SessionPhase.Accounts (codec : Codec) (events : List SessionEvent) : SessionPhase → Prop
  | .waking | .starting | .settling => Early events
  | .following _ =>
      (∀ item ∈ taken events, item.isOk = true) ∧ codec.firstResolved? (handled events) = none
  | .ended (.ok report) => ∃ (lines : Nat) (elapsed : Duration),
      codec.firstResolved? (handled events) = some (handled events).length ∧
          report = (Collector.ofFrames codec configRequestId (handled events) lines).report
            .completed elapsed ∨
        codec.firstResolved? (handled events) = none ∧
          report = (Collector.ofFrames codec configRequestId (handled events) lines).report
            .timedOut elapsed
  | .ended (.error error) => .requested ∈ events →
      codec.firstResolved? (handled events) = none ∧
        ∃ cause, error = .frame cause ∧ (taken events).getLast? = some (.error cause)

/-- An event that takes nothing and asks for nothing says nothing new. -/
theorem SessionPhase.Accounts.aside {codec : Codec} {events : List SessionEvent}
    {event : SessionEvent} {phase : SessionPhase} (accounts : phase.Accounts codec events)
    (nothing : event.item? = none) (unasked : event ≠ .requested) :
    phase.Accounts codec (events ++ [event]) := by
  have sameTaken : taken (events ++ [event]) = taken events := taken_aside nothing
  have sameHandled : handled (events ++ [event]) = handled events := handled_aside nothing
  have sameAsked : .requested ∈ events ++ [event] ↔ .requested ∈ events := by
    rw [List.mem_append, List.mem_singleton]
    exact or_iff_left unasked.symm
  rcases phase with _ | _ | _ | _ | error | report <;>
    simpa only [Accounts, Early, sameTaken, sameHandled, sameAsked] using accounts

/-- A session that fails before the request is out has nothing to account for. -/
theorem SessionPhase.accounts_of_early (codec : Codec) {events : List SessionEvent}
    (early : Early events) (error : SessionError) :
    SessionPhase.Accounts codec events (.ended (.error error)) :=
  fun asked => absurd asked early.2

def SessionPhase.isOver : SessionPhase → Bool
  | .ended _ => true
  | _ => false

/-- The reader has not been started. -/
def SessionPhase.isAlone : SessionPhase → Bool
  | .waking | .starting => true
  | _ => false

/-- What holds of a session at any time, by the events so far. -/
structure Session.Accounted (setup : SessionSetup σ κ τ) (source : σ)
    (events : List SessionEvent) (session : Session σ κ τ) : Prop where
  reading : session.reader.Extracted setup.read source events
  conserved : Conserved events session.queues.frames session.reader.phase
  gathered : session.collector =
    .ofFrames setup.codec configRequestId (handled events) session.collector.consoleLines
  listening : session.phase.isOver = false → session.queues.frames.isOpen = true
  unstarted : session.phase.isAlone = true → session.reader.phase = .unstarted
  accounts : session.phase.Accounts setup.codec events

namespace Session.Accounted

variable {setup : SessionSetup σ κ τ} {source : σ} {events : List SessionEvent}
  {session after : Session σ κ τ}

theorem start (setup : SessionSetup σ κ τ) (source : σ) (link : κ) (console : τ) :
    Accounted setup source [] (.start setup.settings source link console) where
  reading := ⟨.new .standard, source, rfl, rfl, rfl, rfl⟩
  conserved := .start _
  gathered := rfl
  listening _ := rfl
  unstarted _ := rfl
  accounts := ⟨rfl, List.not_mem_nil⟩

/-- A step that takes no frame and leaves the reader and the queue of frames alone. It may
count lines. -/
theorem aside (accounted : Accounted setup source events session) {event : SessionEvent}
    (uncalled : event.result? = none) (nothing : event.item? = none)
    (reader : after.reader = session.reader)
    (frames : after.queues.frames = session.queues.frames)
    (collector : after.collector =
      { session.collector with consoleLines := after.collector.consoleLines })
    (running : after.phase.isOver = false → session.phase.isOver = false)
    (alone : after.phase.isAlone = true → session.phase.isAlone = true)
    (accounts : after.phase.Accounts setup.codec (events ++ [event])) :
    Accounted setup source (events ++ [event]) after where
  reading := reader ▸ accounted.reading.aside uncalled
  conserved := by
    rw [reader, frames]
    exact accounted.conserved.aside uncalled nothing
  gathered := by
    rw [collector, accounted.gathered, handled_aside nothing]
    rfl
  listening := fun still => frames ▸ accounted.listening (running still)
  unstarted := fun still => reader ▸ accounted.unstarted (alone still)
  accounts := accounts

/-- A step that ends the session without taking a frame. -/
theorem finish (accounted : Accounted setup source events session)
    {result : Except SessionError Report} {transmitter : Transmitter κ}
    (accounts : SessionPhase.Accounts setup.codec (events ++ [.internal]) (.ended result)) :
    Accounted setup source (events ++ [.internal])
      { session with phase := .ended result, transmitter } :=
  accounted.aside rfl rfl rfl rfl rfl Bool.noConfusion Bool.noConfusion accounts

/-- A step that stays in the same phase and takes no frame. -/
theorem stay (accounted : Accounted setup source events session)
    (reader : after.reader = session.reader)
    (frames : after.queues.frames = session.queues.frames)
    (collector : after.collector =
      { session.collector with consoleLines := after.collector.consoleLines })
    (phase : after.phase = session.phase) :
    Accounted setup source (events ++ [.internal]) after := by
  refine accounted.aside rfl rfl reader frames collector ?_ ?_ ?_ <;> rw [phase]
  · exact id
  · exact id
  · exact accounted.accounts.aside rfl SessionEvent.noConfusion

/-- A step of the reader. -/
theorem reader (accounted : Accounted setup source events session) {event : SessionEvent}
    {reader : Reader σ} {queues : Queues}
    (step : Reader.Step setup.read session.reader session.queues event reader queues) :
    Accounted setup source (events ++ [event]) { session with reader, queues } where
  reading := accounted.reading.step step
  conserved := accounted.conserved.reader step
  gathered := by
    rw [handled_aside step.took_nothing.1]
    exact accounted.gathered
  listening := fun running => step.took_nothing.2.2.trans (accounted.listening running)
  unstarted := fun alone => absurd (accounted.unstarted alone) step.started
  accounts := accounted.accounts.aside step.took_nothing.1 step.took_nothing.2.1

/-- The reader is started. -/
theorem startReader (accounted : Accounted setup source events session)
    (starting : session.phase = .starting) :
    Accounted setup source (events ++ [.internal])
      { session with phase := .settling, reader := { session.reader with phase := .ready } } := by
  have accounts := accounted.accounts
  have unstarted := accounted.unstarted (by rw [starting]; rfl)
  have conserved := accounted.conserved
  rw [starting] at accounts
  rw [unstarted] at conserved
  have early : Early events := accounts
  exact {
    reading := (accounted.reading.begin unstarted).aside rfl
    conserved := conserved.begin.aside rfl rfl
    gathered := by
      rw [handled_aside rfl]
      exact accounted.gathered
    listening := fun _ => accounted.listening (by rw [starting]; rfl)
    unstarted := Bool.noConfusion
    accounts := early.wait }

/-- The session stops listening. -/
theorem closeFrames (accounted : Accounted setup source events session)
    (past : session.phase.isOver = true) :
    Accounted setup source (events ++ [.internal])
      { session with queues.frames := session.queues.frames.close } where
  reading := accounted.reading.aside rfl
  conserved := accounted.conserved.close
  gathered := by
    rw [handled_aside rfl]
    exact accounted.gathered
  listening := fun running => by
    rw [past] at running
    cases running
  unstarted := accounted.unstarted
  accounts := accounted.accounts.aside rfl SessionEvent.noConfusion

/-- The session takes the frame in front out of the queue. -/
theorem received (accounted : Accounted setup source events session) {asksLines : Bool}
    {frame : Frame} {collector : Collector} {console : τ}
    (following : session.phase = .following asksLines)
    (received : session.collector.receive setup.codec setup.sink frame session.console =
      (collector, console)) :
    collector = .ofFrames setup.codec configRequestId
        (handled (events ++ [.took (.ok frame)])) collector.consoleLines ∧
      setup.codec.firstResolved? (handled (events ++ [.took (.ok frame)])) =
        if collector.snapshot.isResolved then
          some (handled (events ++ [.took (.ok frame)])).length
        else none := by
  have accounts := accounted.accounts
  rw [following] at accounts
  have oneMore : handled (events ++ [.took (.ok frame)]) = handled events ++ [frame] := by
    rw [handled, taken_concat, frameItems_append]
    rfl
  rw [accounted.gathered, Collector.receive_ofFrames, Prod.mk.injEq] at received
  constructor
  · rw [oneMore, ← received.1]
    rfl
  · rw [oneMore, Codec.firstResolved?_concat accounts.2, List.length_append, ← received.1]
    rfl

/-- A step that takes the item in front out of the queue. -/
theorem take (accounted : Accounted setup source events session) {asksLines : Bool}
    {item : Except FrameError Frame} {rest : List (Except FrameError Frame)}
    (following : session.phase = .following asksLines)
    (waiting : session.queues.frames.items = item :: rest)
    (reader : after.reader = session.reader)
    (frames : after.queues.frames = { session.queues.frames with items := rest })
    (gathered : after.collector =
      .ofFrames setup.codec configRequestId (handled (events ++ [.took item]))
        after.collector.consoleLines)
    (started : after.phase.isAlone = false)
    (accounts : after.phase.Accounts setup.codec (events ++ [.took item])) :
    Accounted setup source (events ++ [.took item]) after := by
  have listening : session.queues.frames.isOpen = true := by
    apply accounted.listening
    rw [following]
    rfl
  exact {
    reading := reader ▸ accounted.reading.aside rfl
    conserved := by
      rw [reader, frames]
      exact accounted.conserved.take listening waiting
    gathered := gathered
    listening := fun _ => by rw [frames]; exact listening
    unstarted := fun alone => by rw [started] at alone; cases alone
    accounts := accounts }

/-- One step, of the reader or of the session. -/
theorem step (accounted : Accounted setup source events session) {event : SessionEvent}
    (step : Session.Step setup session event after) :
    Accounted setup source (events ++ [event]) after := by
  have accounts := accounted.accounts
  cases step with
  | reader step => exact accounted.reader step
  | wake waking =>
      rw [waking] at accounts
      have early : Early events := accounts
      exact accounted.aside rfl rfl rfl rfl rfl (fun _ => by rw [waking]; rfl)
        (fun _ => by rw [waking]; rfl) early.wait
  | wakeFails waking =>
      rw [waking] at accounts
      have early : Early events := accounts
      exact accounted.finish (SessionPhase.accounts_of_early _ early.wait _)
  | startReader starting => exact accounted.startReader starting
  | startFails starting =>
      rw [starting] at accounts
      have early : Early events := accounts
      exact accounted.finish (SessionPhase.accounts_of_early _ early.wait _)
  | ask settling =>
      rw [settling] at accounts
      have nothing : taken (events ++ [.requested]) = [] := by
        rw [taken_concat, accounts.1]
        rfl
      refine accounted.aside rfl rfl rfl rfl rfl (fun _ => by rw [settling]; rfl)
        Bool.noConfusion ⟨?_, ?_⟩
      · rw [nothing]
        intro item member
        cases member
      · rw [handled, nothing]
        exact Codec.firstResolved?_nil _
  | askFails settling =>
      rw [settling] at accounts
      have early : Early events := accounts
      exact accounted.finish (SessionPhase.accounts_of_early _ early.wait _)
  | @receive asksLines frame rest collector console following waiting received unresolved =>
      obtain ⟨gathered, decided⟩ := accounted.received following received
      rw [unresolved, if_neg Bool.false_ne_true] at decided
      rw [following] at accounts
      have begun : session.phase.isAlone = false := by
        rw [following]
        rfl
      have still : session.phase.Accounts setup.codec (events ++ [.took (.ok frame)]) := by
        rw [following]
        refine ⟨?_, decided⟩
        intro item member
        rw [taken_concat, List.mem_append] at member
        rcases member with before | now
        · exact accounts.1 item before
        · rw [List.mem_singleton.mp now]
          rfl
      exact accounted.take following waiting rfl rfl gathered begun still
  | complete following waiting received resolved elapsed =>
      obtain ⟨gathered, decided⟩ := accounted.received following received
      rw [resolved, if_pos rfl] at decided
      refine accounted.take following waiting rfl rfl gathered rfl ?_
      exact ⟨_, elapsed, .inl ⟨decided, by rw [← gathered]⟩⟩
  | @fail asksLines error rest following waiting =>
      rw [following] at accounts
      have same : handled (events ++ [.took (.error error)]) = handled events := by
        rw [handled, taken_concat, frameItems_append]
        exact List.append_nil _
      refine accounted.take following waiting rfl rfl (by rw [same]; exact accounted.gathered)
        rfl ?_
      intro _
      rw [same]
      exact ⟨accounts.2, error, rfl, by rw [taken_concat]; exact List.getLast?_concat⟩
  | hangUp following nothing gone =>
      rw [following] at accounts
      -- A reader that stops while the session listens leaves a failure in the queue.
      have listening := accounted.listening (by rw [following]; rfl)
      exact absurd gone (accounted.conserved.not_stopped listening nothing accounts.1)
  | showLine following waiting shown =>
      refine accounted.stay rfl rfl ?_ rfl
      obtain ⟨rfl, _⟩ := Prod.mk.inj shown
      rfl
  | endLines following =>
      rw [following] at accounts
      have further : SessionPhase.Accounts setup.codec (events ++ [.internal]) (.following true) :=
        accounts.aside rfl SessionEvent.noConfusion
      exact accounted.aside rfl rfl rfl rfl rfl (fun _ => by rw [following]; rfl)
        Bool.noConfusion further
  | timeOut following elapsed =>
      rw [following] at accounts
      have ended : SessionPhase.Accounts setup.codec events (.ended (.ok
          (session.collector.report .timedOut elapsed))) :=
        ⟨_, elapsed, .inr ⟨accounts.2, by rw [← accounted.gathered]⟩⟩
      exact accounted.finish (ended.aside rfl SessionEvent.noConfusion)
  | closeFrames ended => exact accounted.closeFrames (by rw [ended]; rfl)
  | closeLines ended => exact accounted.stay rfl rfl rfl rfl

/-- Steps one after the other. -/
theorem run {source : σ} {link : κ} {console : τ}
    (run : Run setup (.start setup.settings source link console) events session) :
    Accounted setup source events session := by
  induction run with
  | refl => exact start setup source link console
  | step _ step ih => exact ih.step step

end Session.Accounted

end RadioSnapshot
