import RadioSnapshot.CommandLine.Program
import RadioSnapshot.Proofs.Console.SingleLine
import RadioSnapshot.Proofs.Session.Accounting
import RadioSnapshot.Proofs.Text.Lines

/-!
# Whether a console shows one line for each offer

Every line that a session or a replay offers to its caller is text that the radio printed, or
the line of a log record. The former are single lines throughout: what a reader gathers, what
it holds and what waits in the queue is printed ASCII at every moment. The latter are as good
as the records are. So the console shows one line for each offer as long as the log records
are plain, and a record that is not breaks this.
-/

namespace RadioSnapshot

open Radio SessionEvent

variable {σ κ τ : Type}

/-! ## Lines of a reader -/

/-- The lines that a reader has still to offer. -/
def ReaderPhase.pendingLines : ReaderPhase → List String
  | .reading lines | .returning lines _ => lines
  | _ => []

/-- What a reader has gathered and what it has put into the queue is printed text. -/
structure Reader.Printing (reader : Reader σ) (queue : LineQueue) : Prop where
  unfinished : Printed reader.receiver.lines.pending
  pending : ∀ line ∈ reader.phase.pendingLines, PrintedLine line
  waiting : ∀ line ∈ queue.lines, PrintedLine line

/-- Looking at bytes completes printed lines. -/
theorem Receiver.drain_printed (bytes : List UInt8) {receiver : Receiver}
    (printed : Printed receiver.lines.pending) :
    (∀ line ∈ (drain .collect bytes receiver []).2.2, PrintedLine line) ∧
      Printed (drain .collect bytes receiver []).2.1.lines.pending := by
  obtain ⟨looked, lines, _, advance, _⟩ := drain_advance .collect bytes receiver []
  have gathered := LineBuffer.run_printed (Deframer.Event.strays
    (receiver.deframer.run receiver.limits.maxPayload looked).1) printed
  rw [advance.lines_eq] at gathered
  rw [← advance.offered, LineSink.offerAll_collect, List.nil_append]
  exact gathered

theorem Reception.readOn_printed (read : LinkRead σ) {receiver : Receiver} (state : σ)
    (printed : Printed receiver.lines.pending) :
    (∀ line ∈ (readOn read .collect ⟨receiver, state, []⟩).2.console, PrintedLine line) ∧
      Printed (readOn read .collect ⟨receiver, state, []⟩).2.receiver.lines.pending := by
  have nothing : ∀ line ∈ ([] : List String), PrintedLine line := List.forall_mem_nil _
  rw [readOn]
  split
  · exact ⟨nothing, printed⟩
  · dsimp only
    split
    · exact ⟨nothing, printed⟩
    · exact Receiver.drain_printed _ printed

theorem LineQueue.offer_printed {line : String} {queue : LineQueue} (printed : PrintedLine line)
    (waiting : ∀ line ∈ queue.lines, PrintedLine line) :
    ∀ other ∈ (queue.offer line).2.lines, PrintedLine other := by
  rw [offer]
  split
  · intro other member
    rcases List.mem_append.mp member with before | now
    · exact waiting other before
    · rw [List.mem_singleton.mp now]
      exact printed
  · exact waiting

namespace Reader.Printing

/-- Each step of a reader keeps to printed text. -/
theorem step {read : LinkRead σ} {reader after : Reader σ} {queues later : Queues}
    {event : SessionEvent} (step : Reader.Step read reader queues event after later)
    (printing : reader.Printing queues.lines) : after.Printing later.lines := by
  have nothing : ∀ line ∈ ([] : List String), PrintedLine line := List.forall_mem_nil _
  have held := Receiver.drain_printed reader.receiver.held printing.unfinished
  cases step with
  | leave ready deaf => exact ⟨printing.unfinished, nothing, printing.waiting⟩
  | find ready listening drained =>
      rw [Receiver.drainHeld] at drained
      rw [drained] at held
      exact ⟨held.2, held.1, printing.waiting⟩
  | miss ready listening drained =>
      rw [Receiver.drainHeld] at drained
      rw [drained] at held
      exact ⟨held.2, held.1, printing.waiting⟩
  | offerAhead reading =>
      have pending := printing.pending
      rw [reading] at pending
      obtain ⟨first, others⟩ := List.forall_mem_cons.mp pending
      exact ⟨printing.unfinished, others, LineQueue.offer_printed first printing.waiting⟩
  | read reading come =>
      have heard := Reception.readOn_printed read reader.source printing.unfinished
      rw [come] at heard
      exact ⟨heard.2, heard.1, printing.waiting⟩
  | offer returning =>
      have pending := printing.pending
      rw [returning] at pending
      obtain ⟨first, others⟩ := List.forall_mem_cons.mp pending
      exact ⟨printing.unfinished, others, LineQueue.offer_printed first printing.waiting⟩
  | @finish result returning =>
      refine ⟨printing.unfinished, ?_, printing.waiting⟩
      obtain error | (_ | frame) := result <;> exact nothing
  | @send item sending listening room =>
      refine ⟨printing.unfinished, ?_, printing.waiting⟩
      cases item <;> exact nothing
  | giveUp sending deaf => exact ⟨printing.unfinished, nothing, printing.waiting⟩

end Reader.Printing

/-! ## Lines of a session -/

/-- Receiving a frame offers nothing but the line of its log record. -/
theorem Collector.mem_offers_receive {codec : Codec} {sink : LineSink τ} {frame : Frame}
    {collector : Collector} {console : List (String × Bool) × τ} {offer : String × Bool}
    (member : offer ∈ (collector.receive codec sink.logged frame console).2.1) :
    offer ∈ console.1 ∨ codec.logLine? frame = some offer.1 := by
  rw [receive] at member
  rw [Codec.logLine?]
  rcases decoded : codec.decode frame.payload with error | message <;> rw [decoded] at member
  · exact .inl member
  · cases message with
    | logRecord record =>
        rcases List.mem_append.mp member with before | now
        · exact .inl before
        · rw [List.mem_singleton.mp now]
          exact .inr rfl
    | _ => exact .inl member

/-- Where the lines come from that a session has offered to a sink that keeps the offers. -/
structure Session.Offering (codec : Codec) (events : List SessionEvent)
    (session : Session σ κ (List (String × Bool) × τ)) : Prop where
  printing : session.reader.Printing session.queues.lines
  origin : ∀ offer ∈ session.console.1,
    PrintedLine offer.1 ∨ ∃ frame ∈ handled events, codec.logLine? frame = some offer.1

namespace Session.Offering

variable {setup : SessionSetup σ κ τ} {events : List SessionEvent} {event : SessionEvent}
  {session after : Session σ κ (List (String × Bool) × τ)}

theorem mem_handled_append {frame : Frame} (member : frame ∈ handled events)
    (event : SessionEvent) : frame ∈ handled (events ++ [event]) := by
  rw [handled, taken_concat, frameItems_append]
  exact List.mem_append_left _ member

/-- A step that offers nothing to the caller. -/
theorem aside (offering : session.Offering setup.codec events)
    (printing : after.reader.Printing after.queues.lines)
    (console : after.console = session.console) :
    after.Offering setup.codec (events ++ [event]) where
  printing := printing
  origin offer member := by
    rw [console] at member
    refine (offering.origin offer member).imp_right ?_
    rintro ⟨frame, handled, shown⟩
    exact ⟨frame, mem_handled_append handled event, shown⟩

/-- A frame is taken in. -/
theorem receive (offering : session.Offering setup.codec events) {frame : Frame}
    (printing : after.reader.Printing after.queues.lines)
    (console : after.console =
      (session.collector.receive setup.codec setup.sink.logged frame session.console).2) :
    after.Offering setup.codec (events ++ [.took (.ok frame)]) where
  printing := printing
  origin offer member := by
    have now : frame ∈ handled (events ++ [.took (.ok frame)]) := by
      rw [handled, taken_concat, frameItems_append]
      exact List.mem_append_right _ (List.mem_singleton.mpr rfl)
    rw [console] at member
    rcases Collector.mem_offers_receive member with before | recorded
    · refine (offering.origin offer before).imp_right ?_
      rintro ⟨other, handled, known⟩
      exact ⟨other, mem_handled_append handled _, known⟩
    · exact .inr ⟨frame, now, recorded⟩

theorem step (offering : session.Offering setup.codec events)
    (step : Session.Step setup.logged session event after) :
    after.Offering setup.codec (events ++ [event]) := by
  have printing := offering.printing
  cases step with
  | reader step => exact offering.aside (printing.step step) rfl
  | wake | wakeFails | startFails | ask | askFails | fail | hangUp | endLines | timeOut
    | closeFrames => exact offering.aside printing rfl
  | startReader starting =>
      refine offering.aside ⟨printing.unfinished, ?_, printing.waiting⟩ rfl
      exact List.forall_mem_nil _
  | receive following waiting taken unresolved =>
      exact offering.receive printing (congrArg Prod.snd taken).symm
  | complete following waiting taken resolved elapsed =>
      exact offering.receive printing (congrArg Prod.snd taken).symm
  | @showLine line rest collector console following waiting shown =>
      obtain rfl : _ = console := congrArg Prod.snd shown
      have lines := printing.waiting
      rw [waiting] at lines
      obtain ⟨first, others⟩ := List.forall_mem_cons.mp lines
      refine ⟨⟨printing.unfinished, printing.pending, others⟩, fun offer member => ?_⟩
      rcases List.mem_append.mp member with before | now
      · refine (offering.origin offer before).imp_right ?_
        rintro ⟨frame, handled, shown⟩
        exact ⟨frame, mem_handled_append handled _, shown⟩
      · rw [List.mem_singleton.mp now]
        exact .inl first
  | closeLines ended =>
      refine offering.aside ⟨printing.unfinished, printing.pending, ?_⟩ rfl
      exact List.forall_mem_nil _

theorem run {source : σ} {link : κ} {console : τ}
    (run : Run setup.logged (.start setup.settings source link ([], console)) events session) :
    session.Offering setup.codec events := by
  have nothing : ∀ line ∈ ([] : List String), PrintedLine line := List.forall_mem_nil _
  induction run with
  | refl =>
      exact ⟨⟨printed_empty, nothing, nothing⟩, List.forall_mem_nil _⟩
  | step _ step ih => exact ih.step step

end Session.Offering

/-! ## Lines shown -/

/-- What is to be said of lines that were offered while these frames were handled. -/
structure Radio.Codec.Shows (codec : Codec) (handled : List Frame) (lines : List String) :
    Prop where
  /-- A line is text that the radio printed, or the line of a log record. -/
  origin : ∀ line ∈ lines,
    PrintedLine line ∨ ∃ frame ∈ handled, codec.logLine? frame = some line
  /-- All of them are single lines exactly if the log records are plain. -/
  single : (∀ line ∈ lines, SingleLine line) ↔
    ∀ frame ∈ handled, ∀ record, codec.decode frame.payload = .ok (.logRecord record) →
      record.Plain
  /-- The program shows one line for each of them exactly if there are no line feeds inside. -/
  shown : (textLines (writtenOut (Program.consoleDiagnostics true lines))).length =
    lines.length ↔ ∀ line ∈ lines, '\n' ∉ line.toList

theorem Radio.Codec.logLine?_eq_some_iff {codec : Codec} {frame : Frame} {line : String} :
    codec.logLine? frame = some line ↔
      ∃ record, codec.decode frame.payload = .ok (.logRecord record) ∧ record.line = line := by
  rw [logLine?]
  split
  next record carried => simp [carried]
  next other =>
    constructor
    · intro nothing
      cases nothing
    · rintro ⟨record, carried, _⟩
      exact absurd carried (other record)

/-- The text of lines behind a label has as many lines more as there are line feeds inside. -/
theorem Program.length_consoleDiagnostics (lines : List String) :
    (textLines (writtenOut (consoleDiagnostics true lines))).length =
      lines.length + (lines.map lineFeeds).sum := by
  have label : lineFeeds "device: " = 0 := by decide
  have labelled (line : String) : lineFeeds ("device: " ++ line) = lineFeeds line := by
    rw [lineFeeds_append, label, Nat.zero_add]
  rw [length_textLines, lineFeeds_writtenOut, consoleDiagnostics, if_pos rfl, List.length_map,
    List.map_map]
  simp only [Function.comp_def, labelled]

theorem Radio.Codec.shows_of_origin {codec : Codec} {handled : List Frame} {lines : List String}
    (origin : ∀ line ∈ lines,
      PrintedLine line ∨ ∃ frame ∈ handled, codec.logLine? frame = some line)
    (records : (handled.filterMap codec.logLine?).Sublist lines) : codec.Shows handled lines where
  origin := origin
  single := by
    constructor
    · intro single frame member record carried
      have shown : codec.logLine? frame = some record.line :=
        logLine?_eq_some_iff.mpr ⟨record, carried, rfl⟩
      exact LogRecord.singleLine_line_iff.mp
        (single _ (records.subset (List.mem_filterMap.mpr ⟨frame, member, shown⟩)))
    · intro plain line member
      obtain printed | ⟨frame, handled, shown⟩ := origin line member
      · exact printed.singleLine
      · obtain ⟨record, carried, rfl⟩ := logLine?_eq_some_iff.mp shown
        exact LogRecord.singleLine_line_iff.mpr (plain frame handled record carried)
  shown := by
    have none : (lines.map lineFeeds).sum = 0 ↔ ∀ line ∈ lines, '\n' ∉ line.toList := by
      simp only [List.sum_eq_zero_iff_forall_eq_nat, List.forall_mem_map, lineFeeds_eq_zero_iff]
    rw [Program.length_consoleDiagnostics, ← none]
    omega

namespace Arrival

theorem through_isPrefix (count : Nat) (arrivals : List Arrival) :
    through count arrivals <+: arrivals := by
  induction arrivals generalizing count with
  | nil =>
      cases count <;> exact List.nil_prefix
  | cons arrival arrivals ih =>
      cases count with
      | zero => exact List.nil_prefix
      | succ count =>
          cases arrival with
          | line text => exact List.prefix_cons_inj _ |>.mpr (ih (count + 1))
          | frame complete => exact List.prefix_cons_inj _ |>.mpr (ih count)

theorem handled_isPrefix (codec : Codec) (arrivals : List Arrival) :
    handled codec arrivals <+: arrivals := by
  rw [handled]
  split
  · exact through_isPrefix _ arrivals
  · exact List.prefix_refl arrivals

/-- The lines that arrive are printed ones. -/
theorem lines_ofBytes_printed (bytes : List UInt8) :
    ∀ line ∈ lines (ofBytes bytes), PrintedLine line := by
  have gathered := @LineBuffer.run_printed
    (Deframer.Event.strays (Deframer.idle.run Frame.maxPayload bytes).1) .empty printed_empty
  rw [← lines_ofEvents] at gathered
  exact gathered.1

/-- What is offered is the lines among arrivals and the lines of the log records. -/
theorem origin_of_mem_offers {codec : Codec} {arrivals : List Arrival} {line : String}
    (member : line ∈ offers codec arrivals) :
    line ∈ lines arrivals ∨ ∃ frame ∈ frames arrivals, codec.logLine? frame = some line := by
  obtain ⟨arrival, arrived, shown⟩ := List.mem_filterMap.mp member
  cases arrival with
  | line text => exact .inl (List.mem_filterMap.mpr ⟨_, arrived, shown⟩)
  | frame complete => exact .inr ⟨complete, List.mem_filterMap.mpr ⟨_, arrived, rfl⟩, shown⟩

theorem logLines_sublist_offers (codec : Codec) (arrivals : List Arrival) :
    ((frames arrivals).filterMap codec.logLine?).Sublist (offers codec arrivals) := by
  induction arrivals with
  | nil => exact .slnil
  | cons arrival arrivals ih =>
      rw [← List.singleton_append, frames_append, offers_append, List.filterMap_append]
      refine List.Sublist.append ?_ ih
      cases arrival with
      | line text => exact List.nil_sublist _
      | frame complete =>
          rw [offers_frame]
          cases shown : codec.logLine? complete <;> simp [frames, frame?, shown]

/-- What is offered of an input. -/
theorem shows_handled (codec : Codec) (bytes : List UInt8) :
    let handled := handled codec (ofBytes bytes)
    codec.Shows (frames handled) (offers codec handled) := by
  intro handled
  have arrived : ∀ line ∈ lines handled, PrintedLine line := fun line member =>
    lines_ofBytes_printed bytes line
      (((handled_isPrefix codec (ofBytes bytes)).filterMap line?).subset member)
  refine Codec.shows_of_origin (fun line member => ?_) (logLines_sublist_offers codec handled)
  exact (origin_of_mem_offers member).imp_left (arrived line)

end Arrival

/-- The lines offered to a console are single lines unless a log record makes another of them.

A line that a replay or a session offers is printed ASCII that the radio printed, or it is the
line of a log record handled. The offers are single lines, all of them, exactly if the log
records handled are plain: without control characters, save for blanks behind the text, and
with a source or some text. The program, which writes a line for each, shows as many lines as
there were offers exactly if no offer has a line feed inside. The offers are those that a sink
sees which keeps them all; for a replay they are the lines that arrive and the lines of log
records, and a session may take any steps. -/
theorem offered_lines_single_unless_record (codec : Codec) (sink : LineSink τ) (console : τ) :
    (∀ (source : FiniteSource σ) (recording : σ) (elapsed : Duration),
      let played := replay codec source sink recording console elapsed
      let transcript := source.transcript (Receiver.new .standard).room recording
      let handled := Arrival.handled codec (Arrival.ofBytes transcript.bytes)
      ∃ offers : List (String × Bool),
        replay codec source sink.logged recording ([], console) elapsed =
          (played.1, offers, played.2) ∧
        codec.Shows (Arrival.frames handled) (offers.map Prod.fst)) ∧
    ∀ (settings : SessionSettings) (outlet : ByteSink κ) (read : LinkRead σ) (source : σ)
      (link : κ) (events : List SessionEvent) (session : Session σ κ τ),
      let setup : SessionSetup σ κ τ := ⟨settings, codec, outlet, read, sink⟩
      Session.Run setup (.start settings source link console) events session →
      ∃ offers : List (String × Bool),
        Session.Run setup.logged (.start settings source link ([], console)) events
          (session.logging offers) ∧
        codec.Shows (handled events) (offers.map Prod.fst) := by
  constructor
  · intro source recording elapsed played transcript handled
    obtain ⟨offers, kept, lines, _⟩ := replay_logged codec source sink recording console elapsed
    refine ⟨offers, kept, ?_⟩
    rw [lines]
    exact Arrival.shows_handled codec transcript.bytes
  · intro settings outlet read source link events session setup run
    obtain ⟨offers, logged, _, records⟩ := run.logged
    refine ⟨offers, logged, Codec.shows_of_origin ?_ records⟩
    exact List.forall_mem_map.mpr (Session.Offering.run logged).origin

/-- A replay that offers a printed line and the line of a record, and a session that hears the
sample. -/
theorem offered_lines_single_unless_record_mixed :
    (∃ offers : List (String × Bool),
      offers.map Prod.fst = ["Hi", "up"] ∧
      (replay .envelope .stream LineSink.collect.logged (.ofScript [.data mixedRecording])
        ([], []) .zero).2.1 = offers ∧
      (textLines (writtenOut (Program.consoleDiagnostics true (offers.map Prod.fst)))).length =
        2) ∧
    ∃ (events : List SessionEvent) (session : Session Device Recorder (List String))
      (report : Report) (offers : List (String × Bool)),
      session.phase = .ended (.ok report) ∧ report.stats = ⟨3, 0, 0, 1⟩ ∧
      Codec.envelope.Shows (handled events) (offers.map Prod.fst) := by
  constructor
  · obtain ⟨offers, kept, shows⟩ := (@offered_lines_single_unless_record _ Unit _ .envelope
      .collect []).1 .stream (.ofScript [.data mixedRecording]) .zero
    have offered : (replay .envelope .stream LineSink.collect.logged
        (.ofScript [.data mixedRecording]) ([], []) .zero).2.1.map Prod.fst = ["Hi", "up"] := by
      decide +kernel
    rw [kept] at offered
    have unbroken : ∀ line ∈ ["Hi", "up"], '\n' ∉ line.toList := by decide
    refine ⟨offers, offered, by rw [kept], ?_⟩
    rw [shows.shown.mpr (offered ▸ unbroken), offered]
    rfl
  · obtain ⟨events, session, report, run, ended, _, stats⟩ :=
      Session.exists_run_sample .standard .collect .completed ⟨3, 0, 0, 1⟩ (by decide +kernel)
    obtain ⟨offers, _, shows⟩ := (offered_lines_single_unless_record .envelope .collect []).2
      .standard .recorder FiniteSource.direct.read (.ofScript [.data sampleRecording]) ⟨[], none⟩
      events session run
    exact ⟨events, session, report, offers, ended, stats, shows⟩

/-- A radio sends two log records: one with a line feed inside, and one of blanks. -/
def brokenRecording : List UInt8 :=
  [0x94, 0xC3, 0, 7, 0x32, 5, 0x0A, 3, 97, 10, 98,
    0x94, 0xC3, 0, 6, 0x32, 4, 0x0A, 2, 32, 32]

/-- Neither is offered as a single line, and three lines are shown for the two of them. -/
theorem log_record_offered_on_two_lines :
    let offers := (replay .envelope .stream .collect (.ofScript [.data brokenRecording]) []
      .zero).2
    offers = ["a\nb", ""] ∧ ¬SingleLine "a\nb" ∧ ¬SingleLine "" ∧
      textLines (writtenOut (Program.consoleDiagnostics true offers)) =
        ["device: a", "b", "device: "].map String.toList := by
  intro offers
  have offered : offers = ["a\nb", ""] := by
    decide +kernel
  refine ⟨offered, ?_, fun single => single.some rfl, ?_⟩
  · intro single
    exact absurd (single.plain '\n' (by decide)) (by decide)
  · rw [offered]
    decide +kernel

end RadioSnapshot
