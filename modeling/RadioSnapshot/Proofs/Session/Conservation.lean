import RadioSnapshot.Proofs.Frame.Extraction
import RadioSnapshot.Session.Interleaving

/-!
# Frames on their way through a session

Whatever the order of steps, the frames that the session has taken out of the queue, then
those in the queue and then the one that the reader still holds are the frames that the
receiver has extracted. A failure to read is the last thing that comes out.
-/

namespace RadioSnapshot

variable {σ κ τ : Type}

/-! ## What events tell -/

/-- The frames among items. -/
def frameItems (items : List (Except FrameError Frame)) : List Frame :=
  items.filterMap Except.toOption

theorem frameItems_append (first second : List (Except FrameError Frame)) :
    frameItems (first ++ second) = frameItems first ++ frameItems second :=
  List.filterMap_append

namespace Reception

/-- What the result of a call leaves for the queue of frames. -/
def passedOn : Except FrameError (Option Frame) → List (Except FrameError Frame)
  | .ok found => found.toList.map .ok
  | .error error => [.error error]

theorem frameItems_passedOn (results : List (Except FrameError (Option Frame))) :
    frameItems (results.flatMap passedOn) = results.flatMap returned := by
  induction results with
  | nil => rfl
  | cons result results ih =>
      have first : frameItems (passedOn result) = returned result := by
        rcases result with error | _ | frame <;> rfl
      rw [List.flatMap_cons, List.flatMap_cons, frameItems_append, first, ih]

theorem isOk_of_mem_passedOn {result : Except FrameError (Option Frame)}
    {item : Except FrameError Frame} (member : item ∈ passedOn result) :
    item.isOk = result.isOk := by
  rcases result with error | _ | frame
  · rw [List.mem_singleton.mp member]
    rfl
  · cases member
  · rw [List.mem_singleton.mp member]
    rfl

end Reception

namespace SessionEvent

def result? : SessionEvent → Option (Except FrameError (Option Frame))
  | .called result => some result
  | _ => none

def item? : SessionEvent → Option (Except FrameError Frame)
  | .took item => some item
  | _ => none

/-- The results of the calls, in order. -/
def results (events : List SessionEvent) : List (Except FrameError (Option Frame)) :=
  events.filterMap result?

/-- The items that the calls left for the queue of frames, in order. -/
def passed (events : List SessionEvent) : List (Except FrameError Frame) :=
  (results events).flatMap Reception.passedOn

/-- The items that the session took out of that queue, in order. -/
def taken (events : List SessionEvent) : List (Except FrameError Frame) :=
  events.filterMap item?

/-- The frames that the receiver extracted. -/
def extracted (events : List SessionEvent) : List Frame :=
  (results events).flatMap Reception.returned

/-- The frames that the session handled. -/
def handled (events : List SessionEvent) : List Frame :=
  frameItems (taken events)

variable (events : List SessionEvent) (event : SessionEvent)

theorem results_concat :
    results (events ++ [event]) = results events ++ event.result?.toList := by
  cases event <;> simp [results, result?]

theorem passed_concat :
    passed (events ++ [event]) =
      passed events ++ event.result?.toList.flatMap Reception.passedOn := by
  rw [passed, results_concat, List.flatMap_append, passed]

theorem taken_concat : taken (events ++ [event]) = taken events ++ event.item?.toList := by
  cases event <;> simp [taken, item?]

variable {events event}

theorem results_aside (uncalled : event.result? = none) :
    results (events ++ [event]) = results events := by
  rw [results_concat, uncalled]
  exact List.append_nil _

theorem taken_aside (nothing : event.item? = none) :
    taken (events ++ [event]) = taken events := by
  rw [taken_concat, nothing]
  exact List.append_nil _

theorem handled_aside (nothing : event.item? = none) :
    handled (events ++ [event]) = handled events :=
  congrArg frameItems (taken_aside nothing)

end SessionEvent

/-! ## The reader -/

namespace ReaderPhase

/-- What a reader has got and not yet put into the queue. -/
def holding : ReaderPhase → List (Except FrameError Frame)
  | .returning _ result => Reception.passedOn result
  | .sending item => [item]
  | _ => []

/-- The reader may call its receiver again, as no call has failed. -/
def goesOn : ReaderPhase → Bool
  | .returning _ result => result.isOk
  | .sending item => item.isOk
  | .stopped => false
  | _ => true

theorem holding_afterCall (result : Except FrameError (Option Frame)) :
    (afterCall result).holding = Reception.passedOn result := by
  rcases result with error | _ | frame <;> rfl

theorem goesOn_afterCall (result : Except FrameError (Option Frame)) :
    (afterCall result).goesOn = result.isOk := by
  rcases result with error | _ | frame <;> rfl

theorem afterCall_ne_stopped (result : Except FrameError (Option Frame)) :
    afterCall result ≠ .stopped := by
  rcases result with error | _ | frame <;> exact ReaderPhase.noConfusion

theorem holding_afterSending (item : Except FrameError Frame) :
    (afterSending item).holding = [] := by
  cases item <;> rfl

theorem goesOn_afterSending (item : Except FrameError Frame) :
    (afterSending item).goesOn = item.isOk := by
  cases item <;> rfl

end ReaderPhase

namespace Reader.Step

open SessionEvent

variable {read : LinkRead σ} {reader after : Reader σ} {queues later : Queues}
  {event : SessionEvent}

theorem started (step : Step read reader queues event after later) :
    reader.phase ≠ .unstarted := by
  intro unstarted
  cases step <;> simp_all

/-- A step takes nothing out of the queue of frames, and does not close it. -/
theorem took_nothing (step : Step read reader queues event after later) :
    event.item? = none ∧ event ≠ .requested ∧
      later.frames.isOpen = queues.frames.isOpen := by
  cases step <;> exact ⟨rfl, SessionEvent.noConfusion, rfl⟩

/-- Behind the items in the queue stands what the reader holds, and behind that comes what
a call passes on. -/
theorem conserved (step : Step read reader queues event after later)
    (listening : queues.frames.isOpen = true) :
    later.frames.items ++ after.phase.holding =
      queues.frames.items ++ reader.phase.holding ++
        event.result?.toList.flatMap Reception.passedOn := by
  cases step with
  | leave _ deaf => rw [listening] at deaf; cases deaf
  | giveUp _ deaf => rw [listening] at deaf; cases deaf
  | find ready | miss ready => simp [ready, ReaderPhase.holding, result?]
  | offerAhead reading => simp [reading, ReaderPhase.holding, result?]
  | read reading => simp [reading, ReaderPhase.holding, result?]
  | offer returning => simp [returning, ReaderPhase.holding, result?]
  | finish returning =>
      rw [ReaderPhase.holding_afterCall, returning]
      exact (List.append_nil _).symm
  | send sending =>
      rw [ReaderPhase.holding_afterSending, sending]
      simp [FrameQueue.put, ReaderPhase.holding, result?]

/-- A call is made by a reader that goes on, and one that fails is the last. -/
theorem goesOn (step : Step read reader queues event after later) :
    (event.result? ≠ none → reader.phase.goesOn = true) ∧
      (after.phase.goesOn = true →
        reader.phase.goesOn = true ∧ ∀ result ∈ event.result?, result.isOk = true) := by
  cases step with
  | leave ready | giveUp ready => simp [result?, ReaderPhase.goesOn]
  | find ready | miss ready => simp [ready, result?, ReaderPhase.goesOn, Except.isOk, Except.toBool]
  | offerAhead reading => simp [reading, result?, ReaderPhase.goesOn]
  | read reading => simp [reading, result?, ReaderPhase.goesOn]
  | offer returning => simp [returning, result?, ReaderPhase.goesOn]
  | finish returning =>
      rw [ReaderPhase.goesOn_afterCall, returning]
      simp [result?, ReaderPhase.goesOn]
  | send sending =>
      rw [ReaderPhase.goesOn_afterSending, sending]
      simp [result?, ReaderPhase.goesOn]

/-- As long as somebody listens, only a failure that is in the queue stops a reader. -/
theorem stops (step : Step read reader queues event after later)
    (listening : queues.frames.isOpen = true) (stopped : after.phase = .stopped) :
    ∃ error, reader.phase.holding = [.error error] := by
  cases step with
  | leave _ deaf | giveUp _ deaf => rw [listening] at deaf; cases deaf
  | find | miss | offerAhead | read | offer => cases stopped
  | finish => exact absurd stopped (ReaderPhase.afterCall_ne_stopped _)
  | @send item sending =>
      cases item with
      | ok frame => cases stopped
      | error error => exact ⟨error, by rw [sending]; rfl⟩

end Reader.Step

/-! ## The whole way -/

open SessionEvent

/-- What holds at any time of the events so far, of the queue of frames and of the
reader. -/
structure Conserved (events : List SessionEvent) (queue : FrameQueue) (phase : ReaderPhase) :
    Prop where
  /-- While the session listens, nothing is lost, doubled or moved. -/
  whole : queue.isOpen = true → taken events ++ queue.items ++ phase.holding = passed events
  /-- What the session took came first, also when it has left the rest. -/
  first : taken events <+: passed events
  /-- Only the last call may have failed. -/
  last : ∀ result ∈ (results events).dropLast, result.isOk = true
  sound : phase.goesOn = true → ∀ result ∈ results events, result.isOk = true
  /-- A reader that stops while the session listens has met a failure. -/
  stopped : phase = .stopped → queue.isOpen = true → ∃ error, .error error ∈ passed events

namespace Conserved

variable {events : List SessionEvent} {queue : FrameQueue} {phase : ReaderPhase}

theorem start (capacity : Nat) : Conserved [] (.empty capacity) .unstarted where
  whole _ := rfl
  first := List.prefix_refl _
  last _ member := by cases member
  sound _ _ member := by cases member
  stopped stopped := by cases stopped

theorem begin (conserved : Conserved events queue .unstarted) : Conserved events queue .ready :=
  ⟨conserved.whole, conserved.first, conserved.last, fun _ => conserved.sound rfl,
    fun stopped => by cases stopped⟩

/-- A step of the reader. -/
theorem reader {read : LinkRead σ} {reader after : Reader σ} {queues later : Queues}
    {event : SessionEvent} (conserved : Conserved events queues.frames reader.phase)
    (step : Reader.Step read reader queues event after later) :
    Conserved (events ++ [event]) later.frames after.phase := by
  obtain ⟨nothing, _, sameListening⟩ := step.took_nothing
  obtain ⟨calls, goesOn⟩ := step.goesOn
  have taken : taken (events ++ [event]) = taken events := taken_aside nothing
  refine ⟨?_, ?_, ?_, ?_, ?_⟩
  · intro listening
    rw [sameListening] at listening
    rw [taken, List.append_assoc, step.conserved listening, passed_concat,
      ← conserved.whole listening]
    simp only [List.append_assoc]
  · rw [taken, passed_concat]
    exact conserved.first.trans (List.prefix_append _ _)
  · rw [results_concat]
    cases called : event.result? with
    | none =>
        rw [Option.toList_none, List.append_nil]
        exact conserved.last
    | some result =>
        rw [Option.toList_some, List.dropLast_concat]
        exact conserved.sound (calls (by rw [called]; exact Option.some_ne_none _))
  · intro goes result member
    obtain ⟨went, well⟩ := goesOn goes
    rw [results_concat, List.mem_append, Option.mem_toList] at member
    exact member.elim (conserved.sound went result) (well result)
  · intro stopped listening
    rw [sameListening] at listening
    obtain ⟨error, holding⟩ := step.stops listening stopped
    refine ⟨error, ?_⟩
    rw [passed_concat, ← conserved.whole listening, holding]
    simp

/-- A step of the session that leaves the queue and the reader alone. -/
theorem aside (conserved : Conserved events queue phase) {event : SessionEvent}
    (uncalled : event.result? = none) (nothing : event.item? = none) :
    Conserved (events ++ [event]) queue phase := by
  have results : results (events ++ [event]) = results events := results_aside uncalled
  have taken : taken (events ++ [event]) = taken events := taken_aside nothing
  have passed : passed (events ++ [event]) = passed events := by
    rw [SessionEvent.passed, results, SessionEvent.passed]
  constructor
  · rw [taken, passed]
    exact conserved.whole
  · rw [taken, passed]
    exact conserved.first
  · rw [results]
    exact conserved.last
  · rw [results]
    exact conserved.sound
  · rw [passed]
    exact conserved.stopped

/-- The session takes the item in front. -/
theorem take (conserved : Conserved events queue phase) {item : Except FrameError Frame}
    {rest : List (Except FrameError Frame)} (listening : queue.isOpen = true)
    (waiting : queue.items = item :: rest) :
    Conserved (events ++ [.took item]) { queue with items := rest } phase := by
  have results : results (events ++ [.took item]) = results events := results_aside rfl
  have passed : passed (events ++ [.took item]) = passed events := by
    rw [SessionEvent.passed, results, SessionEvent.passed]
  have whole := conserved.whole listening
  rw [waiting, List.append_cons] at whole
  have taken : taken (events ++ [.took item]) = taken events ++ [item] := taken_concat _ _
  constructor
  · intro _
    rw [taken, passed]
    exact whole
  · rw [taken, passed, ← whole, List.append_assoc]
    exact List.prefix_append _ _
  · rw [results]
    exact conserved.last
  · rw [results]
    exact conserved.sound
  · rw [passed]
    exact conserved.stopped

/-- The session stops listening. -/
theorem close (conserved : Conserved events queue phase) :
    Conserved (events ++ [.internal]) queue.close phase := by
  have aside := @aside _ _ _ conserved .internal rfl rfl
  exact ⟨fun listening => (by cases listening), aside.first, aside.last, aside.sound,
    fun _ listening => (by cases listening)⟩

/-- A failure among the items is that of the last call, and the last item. -/
theorem exists_failure (conserved : Conserved events queue phase) {error : FrameError}
    (failed : .error error ∈ passed events) :
    ∃ front, results events = front ++ [.error error] ∧
      ∀ item ∈ front.flatMap Reception.passedOn, item.isOk = true := by
  have last := conserved.last
  rcases List.eq_nil_or_concat (results events) with none | ⟨front, result, split⟩
  · rw [passed, none] at failed
    cases failed
  · rw [split, List.concat_eq_append] at last
    rw [passed, split, List.concat_eq_append, List.flatMap_append] at failed
    rw [List.dropLast_concat] at last
    have sound : ∀ item ∈ front.flatMap Reception.passedOn, item.isOk = true := by
      intro item member
      obtain ⟨result, called, passedHere⟩ := List.mem_flatMap.mp member
      rw [Reception.isOk_of_mem_passedOn passedHere]
      exact last result called
    refine ⟨front, ?_, sound⟩
    rcases List.mem_append.mp failed with early | late
    · cases sound _ early
    · rw [List.flatMap_singleton] at late
      rw [split, List.concat_eq_append]
      rcases result with cause | _ | frame
      · cases List.mem_singleton.mp late
        rfl
      · cases late
      · cases List.mem_singleton.mp late

/-- Once the session takes a failure, nothing is left: it was the result of the last call,
and all frames extracted have been handled. -/
theorem took_failure (conserved : Conserved events queue phase) {error : FrameError}
    (failed : (taken events).getLast? = some (.error error)) :
    (results events).getLast? = some (.error error) ∧ handled events = extracted events := by
  obtain ⟨front, split⟩ := List.getLast?_eq_some_iff.mp failed
  obtain ⟨rest, whole⟩ := conserved.first
  have member : .error error ∈ passed events := by
    rw [← whole, split]
    simp
  obtain ⟨calls, results, sound⟩ := conserved.exists_failure member
  -- What the calls in front passed on holds no failure, so it cannot reach past this one.
  have nothing : rest = [] := by
    rcases List.eq_nil_or_concat rest with none | ⟨before, item, rest⟩
    · exact none
    · have early : .error error ∈ calls.flatMap Reception.passedOn := by
        rw [split, rest, List.concat_eq_append, passed, results, List.flatMap_append,
          List.flatMap_singleton, ← List.append_assoc] at whole
        have same := (List.append_inj' whole rfl).1
        rw [← same]
        simp
      cases sound _ early
  rw [nothing, List.append_nil] at whole
  constructor
  · rw [results]
    exact List.getLast?_concat
  · rw [handled, whole, passed, Reception.frameItems_passedOn, extracted]

/-- While the session listens and waits for more, the reader has not stopped. -/
theorem not_stopped (conserved : Conserved events queue phase) (listening : queue.isOpen = true)
    (nothing : queue.items = []) (sound : ∀ item ∈ taken events, item.isOk = true) :
    phase ≠ .stopped := by
  intro stopped
  obtain ⟨error, failed⟩ := conserved.stopped stopped listening
  have whole := conserved.whole listening
  rw [nothing, stopped] at whole
  have everything : taken events = passed events := by simpa [ReaderPhase.holding] using whole
  rw [← everything] at failed
  cases sound _ failed

/-- The frames handled come first among those extracted. -/
theorem handled_prefix_extracted (conserved : Conserved events queue phase) :
    handled events <+: extracted events := by
  rw [extracted, ← Reception.frameItems_passedOn]
  exact conserved.first.filterMap _

/-- While the session listens, the frames handled, those that wait and the one that the
reader holds are the frames extracted. -/
theorem handled_append (conserved : Conserved events queue phase)
    (listening : queue.isOpen = true) :
    handled events ++ frameItems queue.items ++ frameItems phase.holding = extracted events := by
  rw [handled, ← frameItems_append, ← frameItems_append, conserved.whole listening, passed,
    Reception.frameItems_passedOn, extracted]

end Conserved

end RadioSnapshot
