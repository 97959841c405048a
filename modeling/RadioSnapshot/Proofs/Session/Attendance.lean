import RadioSnapshot.Proofs.Frame.Reception
import RadioSnapshot.Proofs.Link.Transcript
import RadioSnapshot.Session.Exchange

/-!
# Following a source means attending its arrivals

An exchange follows a source read by read, with bytes held back in between. It
ends where it would have ended had it been given everything that arrives, one
arrival after the other, and then the way in which the source stops.
-/

namespace RadioSnapshot

variable {σ τ : Type}

/-- How following a source stops when the source does. -/
def Ending.stop : Ending → Stop
  | .quiet => .quiet
  | .failed error => .failed (.link error)

/-- Take in arrivals one by one until the snapshot is resolved. -/
def attend (codec : Radio.Codec) (text records : LineSink τ) (ending : Ending) :
    List Arrival → Collector → τ → Stop × Collector × τ
  | [], collector, console => (ending.stop, collector, console)
  | .line line :: rest, collector, console =>
      attend codec text records ending rest collector (text.offer line console).2
  | .frame complete :: rest, collector, console =>
      let taken := collector.receive codec records complete console
      if taken.1.snapshot.isResolved then (.resolved, taken)
      else attend codec text records ending rest taken.1 taken.2

theorem attend_lines (codec : Radio.Codec) (text records : LineSink τ) (ending : Ending)
    (lines : List String) (rest : List Arrival) (collector : Collector) (console : τ) :
    attend codec text records ending (lines.map .line ++ rest) collector console =
      attend codec text records ending rest collector (text.offerAll lines console).2 := by
  induction lines generalizing console with
  | nil => rfl
  | cons line lines ih => exact ih (text.offer line console).2

/-- What bytes bring to a receiver. -/
def Receiver.arrivals (receiver : Receiver) (bytes : List UInt8) : List Arrival :=
  (Arrival.ofInput receiver.limits.maxPayload bytes receiver.deframer receiver.lines).1

/-- Behind the bytes that a receiver has looked at, it is brought what is left. -/
theorem Receiver.Advance.arrivals_append {sink : LineSink τ} {looked : List UInt8}
    {before after : Receiver} {console later : τ} {early : List Arrival}
    (advance : Receiver.Advance sink looked before console early after later)
    (more : List UInt8) :
    before.arrivals (looked ++ more) = early ++ after.arrivals more := by
  rw [Receiver.arrivals, Arrival.ofInput_append, advance.intake, Receiver.arrivals,
    advance.limits]

theorem Receiver.drain_room (sink : LineSink τ) (bytes : List UInt8) (receiver : Receiver)
    (console : τ) : (receiver.drain sink bytes console).2.1.room = receiver.room := by
  obtain ⟨_, _, _, advance, _⟩ := Receiver.drain_advance sink bytes receiver console
  rw [Receiver.room, Receiver.room, advance.limits]

/-- Attending what arrives with some bytes takes what looking at them takes: up to the
first frame, or everything. -/
theorem attend_drain (codec : Radio.Codec) (text records : LineSink τ) (ending : Ending)
    (bytes more : List UInt8) (receiver : Receiver) (collector : Collector) (console : τ) :
    attend codec text records ending (receiver.arrivals (bytes ++ more)) collector console =
      match receiver.drain text bytes console with
      | (none, after, later) =>
          attend codec text records ending (after.arrivals more) collector later
      | (some complete, after, later) =>
          let taken := collector.receive codec records complete later
          if taken.1.snapshot.isResolved then (.resolved, taken)
          else
            attend codec text records ending (after.arrivals (after.held ++ more)) taken.1
              taken.2 := by
  obtain ⟨looked, lines, split, advance, _⟩ :=
    Receiver.drain_advance text bytes receiver console
  have offered := advance.offered
  rcases drained : receiver.drain text bytes console with ⟨found, after, later⟩
  simp only [drained] at split advance offered
  cases found with
  | none =>
      have nothingHeld := Receiver.held_of_drain_none drained
      rw [nothingHeld, List.append_nil] at split
      rw [split, advance.arrivals_append, List.append_assoc, attend_lines]
      simp only [Arrival.lines_append, Arrival.lines_map_line, Arrival.lines_map_frame,
        List.append_nil] at offered
      rw [offered]
      rfl
  | some complete =>
      rw [split, List.append_assoc, advance.arrivals_append, List.append_assoc, attend_lines]
      simp only [Arrival.lines_append, Arrival.lines_map_line, Arrival.lines_map_frame,
        List.append_nil] at offered
      rw [offered]
      rfl

namespace Reception

/-- What the source of a reception has still to give. -/
def transcript (source : FiniteSource σ) (reception : Reception σ τ) : Transcript :=
  source.transcript reception.receiver.room reception.source

/-- Attend what is still to arrive: with the bytes held back, and with those to come. -/
def attended (codec : Radio.Codec) (source : FiniteSource σ) (text records : LineSink τ)
    (reception : Reception σ τ) (collector : Collector) : Stop × Collector × τ :=
  let transcript := reception.transcript source
  attend codec text records transcript.ending
    (reception.receiver.arrivals (reception.receiver.held ++ transcript.bytes)) collector
    reception.console

/-- Attending goes call by call. -/
theorem attended_eq_next (codec : Radio.Codec) (source : FiniteSource σ) (text records : LineSink τ)
    (reception : Reception σ τ) (collector : Collector) :
    reception.attended codec source text records collector =
      match reception.next source text with
      | (.error error, after) => (.failed error, collector, after.console)
      | (.ok none, after) =>
          if after.receiver.idle then (.quiet, collector, after.console)
          else after.attended codec source text records collector
      | (.ok (some complete), after) =>
          let taken := collector.receive codec records complete after.console
          if taken.1.snapshot.isResolved then (.resolved, taken)
          else
            { after with console := taken.2 }.attended codec source text records taken.1 := by
  have held := attend_drain codec text records (reception.transcript source).ending
    reception.receiver.held (reception.transcript source).bytes reception.receiver collector
    reception.console
  have sameRoom := Receiver.drain_room text reception.receiver.held reception.receiver
    reception.console
  rcases next_cases source text reception with
    ⟨complete, receiver, console, drained, called⟩ |
    ⟨receiver, console, state, drained,
      ⟨error, read, called⟩ | ⟨data, read, called⟩⟩ <;>
    rw [Receiver.drainHeld] at drained <;>
    simp only [drained] at held sameRoom <;>
    rw [attended, held, called]
  case inl =>
    simp only [attended, transcript, sameRoom]
  case inr.inl =>
    rw [transcript, FiniteSource.transcript_of_error read]
    rfl
  case inr.inr =>
    cases data with
    | nil =>
        rw [transcript, FiniteSource.transcript_of_nothing read]
        rfl
    | cons byte data =>
        have some : byte :: data ≠ [] := List.cons_ne_nil byte data
        rw [transcript, FiniteSource.transcript_of_data some read]
        have looked := attend_drain codec text records
          (source.transcript reception.receiver.room state).ending (byte :: data)
          (source.transcript reception.receiver.room state).bytes
          { receiver with idle := false } collector console
        have lookedRoom := Receiver.drain_room text (byte :: data)
          { receiver with idle := false } console
        have lookedIdle := Receiver.drain_idle text (byte :: data)
          { receiver with idle := false } console
        rcases looking : Receiver.drain text (byte :: data) { receiver with idle := false } console
          with ⟨_ | complete, after, later⟩
        · have nothingHeld := Receiver.held_of_drain_none looking
          simp only [looking] at looked lookedRoom lookedIdle
          have afterRoom : after.room = reception.receiver.room := lookedRoom.trans sameRoom
          simp only [List.isEmpty_cons, looking, lookedIdle, attended, transcript, afterRoom,
            nothingHeld, List.nil_append, Bool.false_eq_true, if_false]
          exact looked
        · simp only [looking] at looked lookedRoom
          have afterRoom : after.room = reception.receiver.room := lookedRoom.trans sameRoom
          simp only [List.isEmpty_cons, looking, attended, transcript, afterRoom]
          exact looked

end Reception

/-- Following a source ends where attending what is still to arrive ends. -/
theorem Exchange.follow_eq_attended (codec : Radio.Codec) (source : FiniteSource σ)
    (text records : LineSink τ) (exchange : Exchange σ τ) :
    let followed := exchange.follow codec source text records
    (followed.1, followed.2.collector, followed.2.reception.console) =
      exchange.reception.attended codec source text records exchange.collector := by
  fun_induction Exchange.follow codec source text records exchange with
  | case1 exchange error after step => rw [Reception.attended_eq_next, step]
  | case2 exchange after step idle =>
      rw [Reception.attended_eq_next, step]
      exact (if_pos idle).symm
  | case3 exchange after step active ih =>
      rw [Reception.attended_eq_next, step]
      exact ih.trans (if_neg active).symm
  | case4 exchange complete after step taken next resolved =>
      rw [Reception.attended_eq_next, step]
      exact (if_pos resolved).symm
  | case5 exchange complete after step taken next unresolved ih =>
      rw [Reception.attended_eq_next, step]
      exact ih.trans (if_neg unresolved).symm

end RadioSnapshot
