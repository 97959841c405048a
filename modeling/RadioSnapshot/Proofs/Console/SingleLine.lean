import RadioSnapshot.Proofs.Console.Lines
import RadioSnapshot.Session.Collector

/-!
# Lines that are single

What a console shows line by line is to be a line: some text, and nothing in it that ends or
rewrites a line. The text that a radio prints is gathered so. The text of a log record is only
trimmed at its end, and what else is in it stays.
-/

namespace RadioSnapshot

/-- The control characters of Unicode. -/
def isControl (char : Char) : Bool :=
  char.toNat < 32 || (127 ≤ char.toNat && char.toNat < 160)

/-- Some text without control characters. -/
structure SingleLine (text : String) : Prop where
  some : text ≠ ""
  plain : ∀ char ∈ text.toList, isControl char = false

/-- Nothing but printable ASCII. -/
def Printed (text : String) : Prop :=
  ∀ char ∈ text.toList, 32 ≤ char.toNat ∧ char.toNat ≤ 126

theorem printed_empty : Printed "" := List.forall_mem_nil _

/-- Some printable ASCII. -/
structure PrintedLine (line : String) : Prop where
  some : line ≠ ""
  printed : Printed line

theorem PrintedLine.singleLine {line : String} (printed : PrintedLine line) : SingleLine line where
  some := printed.some
  plain char member := by
    have visible := printed.printed char member
    simp only [isControl, Bool.or_eq_false_iff, Bool.and_eq_false_iff, decide_eq_false_iff_not]
    omega

namespace LineBuffer

/-- One byte keeps the unfinished line printed, and a line that it completes is a printed
one. -/
theorem push_printed (byte : UInt8) {buffer : LineBuffer} (printed : Printed buffer.pending) :
    (∀ line ∈ (buffer.push byte).1, PrintedLine line) ∧
      Printed (buffer.push byte).2.pending := by
  have grown (visible : isPrintable byte = true) :
      PrintedLine (buffer.pending.push (Char.ofNat byte.toNat)) := by
    simp only [isPrintable, Bool.and_eq_true, decide_eq_true_eq] at visible
    constructor
    · intro nothing
      have chars := congrArg String.toList nothing
      simp at chars
    · intro char member
      rw [String.toList_push, List.mem_append, List.mem_singleton] at member
      rcases member with before | rfl
      · exact printed char before
      · have ascii : byte.toNat.isValidChar := .inl (by omega)
        have code : (Char.ofNat byte.toNat).toNat = byte.toNat := by
          rw [Char.ofNat, dif_pos ascii]
          rfl
        rw [code]
        exact visible
  rw [push]
  split
  · split
    · exact ⟨fun _ member => (Option.not_mem_none _ member).elim, printed⟩
    next some =>
      refine ⟨fun line member => ?_, printed_empty⟩
      obtain rfl := Option.mem_some.mp member
      exact ⟨fun empty => some (by rw [empty]; rfl), printed⟩
  · split
    next visible =>
      dsimp only
      split
      · exact ⟨fun line member => Option.mem_some.mp member ▸ grown visible, printed_empty⟩
      · exact ⟨fun _ member => (Option.not_mem_none _ member).elim, (grown visible).printed⟩
    · exact ⟨fun _ member => (Option.not_mem_none _ member).elim, printed⟩

/-- All lines that are gathered are printed ones. -/
theorem run_printed (bytes : List UInt8) {buffer : LineBuffer}
    (printed : Printed buffer.pending) :
    (∀ line ∈ (run bytes buffer).1, PrintedLine line) ∧ Printed (run bytes buffer).2.pending := by
  induction bytes generalizing buffer with
  | nil => exact ⟨List.forall_mem_nil _, printed⟩
  | cons byte bytes ih =>
      obtain ⟨completed, unfinished⟩ := push_printed byte printed
      obtain ⟨others, rest⟩ := ih unfinished
      refine ⟨fun line member => ?_, rest⟩
      rcases List.mem_append.mp member with first | later
      · exact completed line (Option.mem_toList.mp first)
      · exact others line later

end LineBuffer

namespace Radio.LogRecord

/-- The record makes a single line: neither its source nor its text, but for blanks behind it,
have control characters, and they are not both missing. -/
structure Plain (record : LogRecord) : Prop where
  some : record.source ≠ "" ∨ trimEnd record.text ≠ ""
  source : ∀ char ∈ record.source.toList, isControl char = false
  text : ∀ char ∈ (trimEnd record.text).toList, isControl char = false

theorem toList_line_of_source {record : LogRecord} (named : record.source ≠ "") :
    record.line.toList =
      '[' :: record.source.toList ++ ']' :: ' ' :: (trimEnd record.text).toList := by
  have given : ¬record.source.isEmpty = true := fun empty =>
    named (String.isEmpty_iff.mp empty)
  rw [line, if_neg given]
  simp

theorem singleLine_line_iff {record : LogRecord} : SingleLine record.line ↔ record.Plain := by
  by_cases named : record.source = ""
  · have shown : record.line = trimEnd record.text := by
      rw [line, named]
      rfl
    rw [shown]
    constructor
    · intro single
      refine ⟨.inr single.some, ?_, single.plain⟩
      rw [named]
      exact List.forall_mem_nil _
    · intro plain
      exact ⟨plain.some.resolve_left (absurd named), plain.text⟩
  · have shown := toList_line_of_source named
    constructor
    · intro single
      have plain := single.plain
      rw [shown] at plain
      exact ⟨.inl named, fun char member => plain char (by simp [member]),
        fun char member => plain char (by simp [member])⟩
    · intro plain
      constructor
      · intro empty
        rw [empty] at shown
        cases shown
      · rw [shown]
        intro char member
        simp only [List.cons_append, List.mem_cons, List.mem_append] at member
        rcases member with rfl | source | rfl | rfl | text
        · rfl
        · exact plain.source char source
        · rfl
        · rfl
        · exact plain.text char text

end Radio.LogRecord

end RadioSnapshot
