import Mathlib.Data.List.Forall2
import RadioSnapshot.Link.Device
import RadioSnapshot.Proofs.Text.HexText
import RadioSnapshot.Report.Render
import RadioSnapshot.Session.Replay

/-!
# Lines of a summary

A summary is laid out line by line, each line behind a label of its own. The layout holds as
long as the texts that the radio gave have no line feeds in them: every line feed in one of
them makes a line more, which may say what it likes.
-/

namespace RadioSnapshot.Report

/-- How the lines of a summary begin. -/
def summaryLabels (report : Report) : List String :=
  ["Device Configuration:", "  Node Number: ", "  Hardware ID: ", "  Long Name: ",
    "  Short Name: "] ++
  (if report.snapshot.metadata.isSome then ["  Firmware: ", "  Hardware Model: "] else []) ++
  ["  Channels: ", "  Config Complete: "] ++
  (if report.isComplete then [] else ["  Result: partial ("])

/-- The texts in a summary that the radio gave. -/
def givenTexts (report : Report) : List String :=
  [report.snapshot.hardwareId, report.snapshot.longName, report.snapshot.shortName] ++
  (if report.snapshot.metadata.isSome then [report.snapshot.firmwareText] else [])

theorem renderSummary_eq (report : Report) :
    report.renderSummary = writtenOut report.summaryLines := rfl

/-- Each line begins with its label. -/
theorem summaryLines_begin (report : Report) :
    List.Forall₂ (fun label line => label.toList <+: line.toList) report.summaryLabels
      report.summaryLines := by
  have begins (label rest : String) : label.toList <+: (label ++ rest).toList := by
    rw [String.toList_append]
    exact List.prefix_append _ _
  rw [summaryLabels, summaryLines]
  refine List.rel_append (List.rel_append (List.rel_append ?_ ?_) ?_) ?_
  · exact .cons (List.prefix_refl _) (.cons (begins _ _) (.cons (begins _ _)
      (.cons (begins _ _) (.cons (begins _ _) .nil))))
  · split
    · exact .cons (begins _ _) (.cons (begins _ _) .nil)
    · exact .nil
  · exact .cons (begins _ _) (.cons (begins _ _) .nil)
  · split
    · exact .nil
    · rw [String.append_assoc]
      exact .cons (begins _ _) .nil

theorem lineFeeds_repr (number : Nat) : lineFeeds number.repr = 0 := by
  apply lineFeeds_eq_zero_iff.mpr
  rw [Nat.repr, String.toList_ofList]
  intro member
  exact absurd (Nat.isDigit_of_mem_toDigits (by decide) (by decide) member) (by decide)

theorem lineFeeds_toString_int (number : Int) : lineFeeds (toString number) = 0 := by
  cases number with
  | ofNat number => exact lineFeeds_repr number
  | negSucc number =>
      have sign : lineFeeds "-" = 0 := by decide
      change lineFeeds ("-" ++ (number + 1).repr) = 0
      rw [lineFeeds_append, sign, lineFeeds_repr]

/-- Hexadecimal text is made of digits. -/
theorem lineFeeds_hex (bytes : List UInt8) : lineFeeds (Hex.encode bytes) = 0 := by
  apply lineFeeds_ofList_eq_zero
  intro char member
  obtain ⟨byte, _, written⟩ := List.mem_flatMap.mp member
  exact Hex.inline_digits byte char written

theorem lineFeeds_nodeNumberText (number? : Option UInt32) :
    lineFeeds (nodeNumberText number?) = 0 := by
  cases number? with
  | none => decide
  | some number =>
      have opening : lineFeeds " (0x" = 0 := by decide
      have closing : lineFeeds ")" = 0 := by decide
      simp only [nodeNumberText, hexWord, lineFeeds_append, Nat.toString_eq_repr, lineFeeds_repr,
        lineFeeds_hex, opening, closing]

theorem lineFeeds_hardwareModelText (snapshot : Snapshot) :
    lineFeeds snapshot.hardwareModelText = 0 := by
  have names : ∀ model ∈ Radio.hardwareModels, lineFeeds model.2 = 0 := by decide
  rw [Snapshot.hardwareModelText]
  split
  · decide
  · rename_i metadata _
    cases known : Radio.hardwareModelName? metadata.hardwareModel with
    | none => exact lineFeeds_toString_int _
    | some name =>
        obtain ⟨before, after, listed, _⟩ := List.lookup_eq_some_iff.mp known
        exact names (_, name) (listed ▸ List.mem_append_right before List.mem_cons_self)

/-- The line feeds in the lines of a summary are those of the texts that the radio gave. -/
theorem sum_lineFeeds_summaryLines (report : Report) :
    (report.summaryLines.map lineFeeds).sum = (report.givenTexts.map lineFeeds).sum := by
  have truths (value : Bool) : lineFeeds (truthText value) = 0 := by
    cases value <;> decide
  have outcomes (outcome : Outcome) : lineFeeds outcome.text = 0 := by
    cases outcome <;> decide
  have labels :
      lineFeeds "Device Configuration:" = 0 ∧ lineFeeds "  Node Number: " = 0 ∧
      lineFeeds "  Hardware ID: " = 0 ∧ lineFeeds "  Long Name: " = 0 ∧
      lineFeeds "  Short Name: " = 0 ∧ lineFeeds "  Firmware: " = 0 ∧
      lineFeeds "  Hardware Model: " = 0 ∧ lineFeeds "  Channels: " = 0 ∧
      lineFeeds "  Config Complete: " = 0 ∧ lineFeeds "  Result: partial (" = 0 ∧
      lineFeeds ")" = 0 := by
    decide
  rw [summaryLines, givenTexts]
  cases report.snapshot.metadata.isSome <;> cases report.isComplete <;>
    simp [labels, truths, outcomes, lineFeeds_nodeNumberText, lineFeeds_hardwareModelText,
      lineFeeds_repr]

/-- A summary holds its layout as long as the texts that the radio gave are on one line each.

It ends in a line feed, and it has one line for every label and one more for every line feed
inside a text that the radio gave. Its lines begin with the labels in their order, each with
its own and none besides, exactly if there is no such line feed. -/
theorem summary_laid_out_unless_lineFeed (report : Report) :
    report.summaryLabels.length =
      7 + (if report.snapshot.metadata.isSome then 2 else 0) +
        (if report.isComplete then 0 else 1) ∧
    report.renderSummary.toList.getLast? = some '\n' ∧
    (textLines report.renderSummary).length =
      report.summaryLabels.length + (report.givenTexts.map lineFeeds).sum ∧
    (List.Forall₂ (fun label line => label.toList <+: line) report.summaryLabels
        (textLines report.renderSummary) ↔
      ∀ text ∈ report.givenTexts, '\n' ∉ text.toList) := by
  have counted : (textLines report.renderSummary).length =
      report.summaryLabels.length + (report.givenTexts.map lineFeeds).sum := by
    rw [length_textLines, renderSummary_eq, lineFeeds_writtenOut, sum_lineFeeds_summaryLines,
      report.summaryLines_begin.length_eq]
  refine ⟨?_, ?_, counted, ?_⟩
  · rw [summaryLabels]
    cases report.snapshot.metadata.isSome <;> cases report.isComplete <;> rfl
  · exact getLast?_writtenOut (List.cons_ne_nil _ _)
  · simp only [← lineFeeds_eq_zero_iff]
    constructor
    · intro laidOut text given
      have none : (report.givenTexts.map lineFeeds).sum = 0 := by
        have same := laidOut.length_eq
        omega
      exact List.sum_eq_zero_iff_forall_eq_nat.mp none _ (List.mem_map_of_mem given)
    · intro plain
      have none : (report.summaryLines.map lineFeeds).sum = 0 := by
        rw [sum_lineFeeds_summaryLines]
        exact List.sum_eq_zero_iff_forall_eq_nat.mpr (List.forall_mem_map.mpr plain)
      have each : ∀ line ∈ report.summaryLines, lineFeeds line = 0 :=
        List.forall_mem_map.mp (List.sum_eq_zero_iff_forall_eq_nat.mp none)
      rw [renderSummary_eq, textLines_writtenOut each, List.forall₂_map_right_iff]
      exact report.summaryLines_begin

/-- A radio names itself and its owner, whose long name runs on to a second line that looks
like one of a summary. -/
def forgingRecording : List UInt8 :=
  [0x94, 0xC3, 0, 4, 0x1A, 2, 8, 7,
    0x94, 0xC3, 0, 36, 0x22, 34, 8, 7, 0x12, 30, 0x0A, 1, 33,
    0x12, 25, 65, 10, 32, 32, 67, 111, 110, 102, 105, 103, 32, 67, 111, 109, 112, 108, 101,
    116, 101, 58, 32, 116, 114, 117, 101]

/-- The summary says that the configuration is complete before it says that it is not. -/
theorem summary_forged_by_long_name :
    (replay .envelope .stream .collect (.ofScript [.data forgingRecording]) [] .zero).1.toOption.map
        (fun report => (report.summaryLabels.length, textLines report.renderSummary)) =
      some (8,
        ["Device Configuration:", "  Node Number: 7 (0x00000007)", "  Hardware ID: !",
          "  Long Name: A", "  Config Complete: true", "  Short Name: ", "  Channels: 0",
          "  Config Complete: false", "  Result: partial (end of input)"].map String.toList) := by
  decide +kernel

end RadioSnapshot.Report
