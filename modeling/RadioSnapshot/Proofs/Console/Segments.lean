import RadioSnapshot.Proofs.Console.Lines

/-!
# Lines are the pieces of what stands between line feeds

A console's text is what is printable of its bytes, in segments between line feeds. A
segment that is too long for one line is cut into pieces, and the lines are these
pieces: all of a segment that has ended, and the full ones of the segment that has not.
Neither the calls that the bytes came in nor the sink that is offered the lines make a
difference.
-/

namespace RadioSnapshot

variable {τ : Type}

/-- Offer the lines to another sink, and keep with each line whether that sink took it. -/
def LineSink.logged (sink : LineSink τ) : LineSink (List (String × Bool) × τ) where
  offer line state :=
    let (taken, console) := sink.offer line state.2
    (taken, state.1 ++ [(line, taken)], console)

/-- Keeping the offers with their answers changes nothing else. -/
theorem LineSink.offerAll_logged (sink : LineSink τ) (lines : List String)
    (offers : List (String × Bool)) (console : τ) :
    let offered := sink.offerAll lines console
    ∃ later, later.map Prod.fst = lines ∧ later.countP (·.2) = offered.1 ∧
      sink.logged.offerAll lines (offers, console) = (offered.1, offers ++ later, offered.2) := by
  induction lines generalizing offers console with
  | nil => exact ⟨[], rfl, rfl, by simp [offerAll]⟩
  | cons line lines ih =>
      rcases offered : sink.offer line console with ⟨taken, after⟩
      obtain ⟨later, same, counted, kept⟩ := ih (offers ++ [(line, taken)]) after
      refine ⟨(line, taken) :: later, by simp [same], ?_, ?_⟩
      · cases taken <;> simp [offerAll, offered, counted]
      · simp only [offerAll, logged, offered] at kept ⊢
        rw [kept]
        simp

namespace LineBuffer

/-- The bytes that are not dropped. -/
def isText (byte : UInt8) : Bool :=
  isPrintable byte || byte == 10

/-- The text between line feeds. The last segment is the one without a line feed behind
it. -/
def segments (bytes : List UInt8) : List (List UInt8) :=
  (bytes.filter isText).splitOn 10

/-- The successive pieces of a segment, of which the last may be shorter than the others
and even empty. -/
def pieces (segment : List UInt8) : List (List UInt8) :=
  (List.range (segment.length / maxLineLength + 1)).map fun index =>
    (segment.drop (index * maxLineLength)).take maxLineLength

/-- The pieces that make lines: those of ended segments unless they are empty, and those
of the last segment that are as long as a line can be. -/
def linePieces (segments : List (List UInt8)) : List (List UInt8) :=
  (segments.dropLast.flatMap fun segment => (pieces segment).filter (!·.isEmpty)) ++
    (pieces (segments.getLastD [])).filter (·.length == maxLineLength)

/-- What follows the full pieces of the last segment. -/
def remainder (segments : List (List UInt8)) : List UInt8 :=
  let last := segments.getLastD []
  last.drop (last.length / maxLineLength * maxLineLength)

/-- Printable bytes as text. -/
def text (bytes : List UInt8) : String :=
  .ofList (bytes.map fun byte => Char.ofNat byte.toNat)

@[simp] theorem text_nil : text [] = "" := rfl

@[simp] theorem length_text (bytes : List UInt8) : (text bytes).length = bytes.length := by
  rw [text, String.length_ofList, List.length_map]

theorem text_concat (bytes : List UInt8) (byte : UInt8) :
    text (bytes ++ [byte]) = (text bytes).push (Char.ofNat byte.toNat) := by
  rw [text, List.map_append, String.ofList_append, String.push_eq_append]
  rfl

theorem isEmpty_text (bytes : List UInt8) : (text bytes).isEmpty = bytes.isEmpty := by
  rw [Bool.eq_iff_iff, String.isEmpty_iff, text, String.ofList_eq_empty_iff,
    List.map_eq_nil_iff, List.isEmpty_iff]

theorem maxLineLength_pos : 0 < maxLineLength := by
  decide

/-- A segment that fits on a line is one piece. -/
theorem pieces_short {segment : List UInt8} (short : segment.length < maxLineLength) :
    pieces segment = [segment] := by
  rw [pieces, Nat.div_eq_of_lt short]
  simp [List.take_of_length_le (Nat.le_of_lt short)]

/-- A full line in front of a segment is a piece of its own. -/
theorem pieces_append {full : List UInt8} (long : full.length = maxLineLength)
    (segment : List UInt8) : pieces (full ++ segment) = full :: pieces segment := by
  have count : (full ++ segment).length / maxLineLength + 1 =
      segment.length / maxLineLength + 1 + 1 := by
    rw [List.length_append, long, Nat.add_comm maxLineLength,
      Nat.add_div_right _ maxLineLength_pos]
  have first : (full ++ segment).take maxLineLength = full := by
    rw [← long, List.take_left]
  have others (index : Nat) : (full ++ segment).drop (index.succ * maxLineLength) =
      segment.drop (index * maxLineLength) := by
    rw [Nat.succ_mul, Nat.add_comm, ← long, ← List.drop_drop, List.drop_left]
  rw [pieces, count, List.range_succ_eq_map, List.map_cons, List.map_map, Nat.zero_mul,
    List.drop_zero, first, pieces]
  refine congrArg (List.cons full) (List.map_congr_left ?_)
  intro index _
  rw [Function.comp_apply, others]

/-- What is left over does not fill a line. -/
theorem length_remainder_lt (segments : List (List UInt8)) :
    (remainder segments).length < maxLineLength := by
  rw [remainder, List.length_drop]
  have split := Nat.div_add_mod (segments.getLastD []).length maxLineLength
  have short := Nat.mod_lt (segments.getLastD []).length maxLineLength_pos
  rw [Nat.mul_comm] at split
  omega

/-- An ended segment is cut by itself. -/
theorem linePieces_cons (segment : List UInt8) {others : List (List UInt8)}
    (more : others ≠ []) :
    linePieces (segment :: others) =
      (pieces segment).filter (!·.isEmpty) ++ linePieces others := by
  rw [linePieces, linePieces, List.dropLast_cons_of_ne_nil more, List.flatMap_cons,
    List.append_assoc, List.getLastD_cons, List.getLastD_eq_getLast?,
    List.getLastD_eq_getLast?, List.getLast?_eq_some_getLast more]
  rfl

theorem remainder_cons (segment : List UInt8) {others : List (List UInt8)}
    (more : others ≠ []) : remainder (segment :: others) = remainder others := by
  rw [remainder, remainder, List.getLastD_cons, List.getLastD_eq_getLast?,
    List.getLastD_eq_getLast?, List.getLast?_eq_some_getLast more]
  rfl

/-- A full line in front of the first segment is a line of its own. -/
theorem linePieces_append_full {full : List UInt8} (long : full.length = maxLineLength)
    (segment : List UInt8) (others : List (List UInt8)) :
    linePieces ((full ++ segment) :: others) = full :: linePieces (segment :: others) := by
  cases others with
  | nil => simp [linePieces, pieces_append long, long]
  | cons next others =>
      have kept : full ≠ [] := by
        rintro rfl
        exact absurd long (Nat.ne_of_lt maxLineLength_pos)
      rw [linePieces_cons _ (List.cons_ne_nil _ _), linePieces_cons _ (List.cons_ne_nil _ _),
        pieces_append long]
      simp [kept]

theorem remainder_append_full {full : List UInt8} (long : full.length = maxLineLength)
    (segment : List UInt8) (others : List (List UInt8)) :
    remainder ((full ++ segment) :: others) = remainder (segment :: others) := by
  cases others with
  | nil =>
      simp only [remainder, List.getLastD_cons, List.getLastD_nil, List.length_append, long,
        Nat.add_div_left _ maxLineLength_pos, Nat.succ_mul]
      rw [Nat.add_comm, ← long, ← List.drop_drop, List.drop_left]
  | cons next others =>
      rw [remainder_cons _ (List.cons_ne_nil _ _), remainder_cons _ (List.cons_ne_nil _ _)]

theorem segments_ne_nil (bytes : List UInt8) : segments bytes ≠ [] :=
  List.splitOn_ne_nil 10 _

/-- A line in the making holds nothing else. -/
def Printable (bytes : List UInt8) : Prop :=
  ∀ byte ∈ bytes, isPrintable byte = true

namespace Printable

variable {held : List UInt8}

theorem nil : Printable [] :=
  fun _ member => absurd member List.not_mem_nil

theorem concat (printable : Printable held) {byte : UInt8} (more : isPrintable byte = true) :
    Printable (held ++ [byte]) := by
  intro other member
  rcases List.mem_append.mp member with earlier | last
  · exact printable other earlier
  · rw [List.mem_singleton.mp last]
    exact more

theorem filter_isText (printable : Printable held) : held.filter isText = held := by
  rw [List.filter_eq_self]
  intro byte member
  rw [isText, printable byte member, Bool.true_or]

theorem not_mem (printable : Printable held) : 10 ∉ held := fun member =>
  absurd (printable 10 member) (by decide)

theorem segments_eq (printable : Printable held) : segments held = [held] := by
  rw [segments, printable.filter_isText, List.splitOn_eq_singleton printable.not_mem]

/-- A line feed ends the segment of what stands in front of it. -/
theorem segments_lineFeed (printable : Printable held) (bytes : List UInt8) :
    segments (held ++ 10 :: bytes) = held :: segments bytes := by
  have feed : isText 10 = true := rfl
  rw [segments, List.filter_append, List.filter_cons_of_pos feed, printable.filter_isText,
    List.splitOn_append_cons_self_of_not_mem printable.not_mem, segments]

/-- Printable bytes join the first of the segments behind them. -/
theorem exists_segments (printable : Printable held) (bytes : List UInt8) :
    ∃ segment others, segments bytes = segment :: others ∧
      segments (held ++ bytes) = (held ++ segment) :: others := by
  obtain ⟨segment, others, behind⟩ := List.exists_cons_of_ne_nil (segments_ne_nil bytes)
  refine ⟨segment, others, behind, ?_⟩
  rw [segments, List.filter_append, printable.filter_isText]
  rw [segments] at behind
  induction held with
  | nil => exact behind
  | cons byte held ih =>
      have different : (byte == 10) = false := by
        rw [beq_eq_false_iff_ne]
        exact fun same => printable.not_mem (same ▸ List.mem_cons_self)
      have fewer : Printable held := fun other member =>
        printable other (List.mem_cons_of_mem byte member)
      rw [List.cons_append, List.splitOn_cons_eq_if_modifyHead, different, ih fewer]
      rfl

end Printable

/-- A byte that is no text makes no difference. -/
theorem segments_dropped {byte : UInt8} (dropped : isText byte = false)
    (held bytes : List UInt8) : segments (held ++ byte :: bytes) = segments (held ++ bytes) := by
  have absent : ¬ isText byte = true := by
    rw [dropped]
    exact Bool.false_ne_true
  rw [segments, List.filter_append, List.filter_cons_of_neg absent, ← List.filter_append,
    segments]

theorem run_cons (byte : UInt8) (bytes : List UInt8) (buffer : LineBuffer) :
    run (byte :: bytes) buffer =
      ((buffer.push byte).1.toList ++ (run bytes (buffer.push byte).2).1,
        (run bytes (buffer.push byte).2).2) := rfl

/-- What one byte does to the line in the making. -/
theorem push_text (byte : UInt8) (held : List UInt8) :
    push byte ⟨text held⟩ =
      if byte = 10 then (if held.isEmpty then none else some (text held), empty)
      else if isPrintable byte then
        if maxLineLength ≤ (held ++ [byte]).length then (some (text (held ++ [byte])), empty)
        else (none, ⟨text (held ++ [byte])⟩)
      else (none, ⟨text held⟩) := by
  simp only [push, isEmpty_text, ← text_concat, length_text]
  cases held with
  | nil => rfl
  | cons first held => rfl

/-- Bytes behind an unfinished line give the lines, and leave the text, that the line
and the bytes together amount to. -/
theorem run_eq_linePieces (bytes : List UInt8) {held : List UInt8}
    (printable : Printable held) (short : held.length < maxLineLength) :
    run bytes ⟨text held⟩ =
      ((linePieces (segments (held ++ bytes))).map text,
        ⟨text (remainder (segments (held ++ bytes)))⟩) := by
  induction bytes generalizing held with
  | nil =>
      rw [List.append_nil, printable.segments_eq, run]
      simp [linePieces, remainder, pieces_short short, Nat.ne_of_lt short,
        Nat.div_eq_of_lt short]
  | cons byte bytes ih =>
      have fresh : run bytes empty = _ := ih .nil maxLineLength_pos
      rw [List.nil_append] at fresh
      rw [run_cons, push_text]
      by_cases feed : byte = 10
      · -- The line is finished, and the rest is gathered afresh.
        subst feed
        have more := segments_ne_nil bytes
        simp only [if_true, fresh]
        rw [printable.segments_lineFeed, linePieces_cons held more, remainder_cons held more,
          pieces_short short]
        cases held with
        | nil => rfl
        | cons first held => rfl
      · by_cases kept : isPrintable byte = true
        · have grown := printable.concat kept
          rw [if_neg feed, if_pos kept, List.append_cons held byte bytes]
          by_cases full : maxLineLength ≤ (held ++ [byte]).length
          · -- The line is full, and the rest is gathered afresh.
            have exact : (held ++ [byte]).length = maxLineLength := by
              rw [List.length_append, List.length_singleton] at full ⊢
              omega
            obtain ⟨segment, others, behind, joined⟩ := grown.exists_segments bytes
            simp only [if_pos full, fresh]
            rw [joined, behind, linePieces_append_full exact, remainder_append_full exact]
            rfl
          · simp only [if_neg full, ih grown (Nat.lt_of_not_le full)]
            rfl
        · have dropped : isText byte = false := by
            simp [isText, kept, feed]
          rw [if_neg feed, if_neg kept, segments_dropped dropped]
          simp only [ih printable short]
          rfl

/-- No line follows on one that was cut just in front of its end. -/
example :
    linePieces (segments (List.replicate 512 122 ++ [13, 10, 65])) =
      [List.replicate 512 122] := by
  decide +kernel

/-- Keeping the offers changes nothing else. They are the completed lines in order, and
those that were not taken are counted. -/
theorem pushAll_logged (sink : LineSink τ) (bytes : List UInt8) (buffer : LineBuffer)
    (offers : List (String × Bool)) (console : τ) :
    let pushed := pushAll sink bytes buffer console
    ∃ later, later.map Prod.fst = (run bytes buffer).1 ∧
      later.countP (!·.2) = pushed.1 ∧
      pushAll sink.logged bytes buffer (offers, console) =
        (pushed.1, pushed.2.1, offers ++ later, pushed.2.2) := by
  induction bytes generalizing buffer offers console with
  | nil => exact ⟨[], rfl, rfl, by simp [pushAll]⟩
  | cons byte bytes ih =>
      simp only [pushAll, run]
      rcases buffer.push byte with ⟨_ | line, next⟩
      · exact ih next offers console
      · rcases offered : sink.offer line console with ⟨taken, after⟩
        obtain ⟨later, lines, refused, logged⟩ := ih next (offers ++ [(line, taken)]) after
        refine ⟨(line, taken) :: later, by simp [lines], ?_, ?_⟩
        · cases taken <;> simp [offered, refused]
        · simp only [LineSink.logged, offered] at logged ⊢
          rw [logged]
          simp

/-- A call on a buffer. -/
inductive Call where
  | push (byte : UInt8)
  | pushAll (bytes : List UInt8)

/-- The bytes that a call brings. -/
def Call.bytes : Call → List UInt8
  | .push byte => [byte]
  | .pushAll bytes => bytes

/-- What a call comes to: the line given out for one byte, or the offers made for a run of
bytes, each with the answer of the sink, and the number given back. -/
inductive Outcome where
  | line (line? : Option String)
  | offered (offers : List (String × Bool)) (returned : Nat)

namespace Outcome

/-- The lines that a call completes. -/
def lines : Outcome → List String
  | .line line? => line?.toList
  | .offered offers _ => offers.map Prod.fst

/-- The number of lines that the sink did not take. -/
def refused : Outcome → Nat
  | .line _ => 0
  | .offered offers _ => offers.countP (!·.2)

/-- The number that a call gives back. -/
def returned : Outcome → Nat
  | .line _ => 0
  | .offered _ returned => returned

end Outcome

/-- Make calls, one after the other. -/
def serve (sink : LineSink τ) : List Call → LineBuffer → τ → List Outcome × LineBuffer × τ
  | [], buffer, console => ([], buffer, console)
  | .push byte :: calls, buffer, console =>
      let (line?, buffer) := buffer.push byte
      let (outcomes, result) := serve sink calls buffer console
      (.line line? :: outcomes, result)
  | .pushAll bytes :: calls, buffer, console =>
      let offers := (pushAll sink.logged bytes buffer ([], console)).2.2.1
      let (returned, buffer, console) := pushAll sink bytes buffer console
      let (outcomes, result) := serve sink calls buffer console
      (.offered offers returned :: outcomes, result)

/-- Calls complete the lines that their bytes complete together, and every call gives back
as many lines as were refused. -/
theorem serve_eq_run (sink : LineSink τ) (calls : List Call) (buffer : LineBuffer)
    (console : τ) :
    let served := serve sink calls buffer console
    (served.1.flatMap Outcome.lines, served.2.1) = run (calls.flatMap Call.bytes) buffer ∧
      served.1.map Outcome.returned = served.1.map Outcome.refused := by
  induction calls generalizing buffer console with
  | nil => exact ⟨rfl, rfl⟩
  | cons call calls ih =>
      cases call with
      | push byte =>
          obtain ⟨lines, counted⟩ := ih (buffer.push byte).2 console
          constructor
          · simp only [serve, List.flatMap_cons, Outcome.lines, Call.bytes,
              List.singleton_append, run_cons, ← lines]
          · simp only [serve, List.map_cons, Outcome.returned, Outcome.refused, counted]
      | pushAll bytes =>
          obtain ⟨made, madeLines, madeCount, logged⟩ :=
            pushAll_logged sink bytes buffer [] console
          obtain ⟨lines, counted⟩ :=
            ih (pushAll sink bytes buffer console).2.1 (pushAll sink bytes buffer console).2.2
          constructor
          · rw [pushAll_buffer] at lines
            simp only [serve, logged, List.nil_append, pushAll_buffer, List.flatMap_cons,
              Outcome.lines, Call.bytes, madeLines, run_append, ← lines]
          · simp only [serve, logged, List.nil_append, List.map_cons, Outcome.returned,
              Outcome.refused, madeCount, counted]

/-- However bytes are split into calls on a new buffer, the lines completed are the pieces
of the segments that the bytes make, in order, and the text left over is pending, shorter
than a line. A call offers its lines to the sink once each, as they are, and gives back how
many of them the sink refused. -/
theorem serve_new (sink : LineSink τ) (calls : List Call) (console : τ) :
    let segments := segments (calls.flatMap Call.bytes)
    let served := serve sink calls empty console
    served.1.flatMap Outcome.lines = (linePieces segments).map text ∧
      served.2.1.pending = text (remainder segments) ∧
      served.2.1.pending.length < maxLineLength ∧
      served.1.map Outcome.returned = served.1.map Outcome.refused := by
  intro segments served
  obtain ⟨complete, counted⟩ := serve_eq_run sink calls empty console
  have whole := run_eq_linePieces (calls.flatMap Call.bytes) .nil maxLineLength_pos
  obtain ⟨lines, pending⟩ := Prod.mk.inj (complete.trans whole)
  have left : served.2.1.pending = text (remainder segments) :=
    congrArg LineBuffer.pending pending
  refine ⟨lines, left, ?_, counted⟩
  rw [left, length_text]
  exact length_remainder_lt segments

end LineBuffer

end RadioSnapshot
