import Mathlib.Algebra.GroupWithZero.Nat
import Mathlib.Data.List.Basic

/-!
# Lines of a text

A text that is made of lines, with a line feed behind each, has these lines as long as there
are no line feeds inside them. Every line feed inside one makes a line more.
-/

namespace RadioSnapshot

/-- The lines of a text: what stands in front of each line feed. -/
def textLines (text : String) : List (List Char) :=
  (text.toList.splitOn '\n').dropLast

/-- The character is no control code that could end the line. -/
def Inline (char : Char) : Prop :=
  32 ≤ char.toNat

instance (char : Char) : Decidable (Inline char) :=
  inferInstanceAs (Decidable (32 ≤ char.toNat))

theorem inline_of_all {chars : List Char} (checked : chars.all (decide <| Inline ·) = true) :
    ∀ char ∈ chars, Inline char := fun char member =>
  of_decide_eq_true (List.all_eq_true.mp checked char member)

/-- The number of line feeds in a text. -/
def lineFeeds (text : String) : Nat :=
  text.toList.count '\n'

/-- Lines with a line feed behind each. -/
def writtenOut (lines : List String) : String :=
  String.join (lines.map (· ++ "\n"))

@[simp] theorem lineFeeds_append (first second : String) :
    lineFeeds (first ++ second) = lineFeeds first + lineFeeds second := by
  rw [lineFeeds, String.toList_append, List.count_append, lineFeeds, lineFeeds]

theorem lineFeeds_eq_zero_iff {text : String} : lineFeeds text = 0 ↔ '\n' ∉ text.toList :=
  List.count_eq_zero

/-- Characters that stay in their line are no line feeds. -/
theorem lineFeeds_ofList_eq_zero {chars : List Char} (inline : ∀ char ∈ chars, Inline char) :
    lineFeeds (.ofList chars) = 0 := by
  rw [lineFeeds_eq_zero_iff, String.toList_ofList]
  exact fun member => absurd (inline '\n' member) (by decide)

/-- Each line feed ends a line. -/
theorem length_textLines (text : String) : (textLines text).length = lineFeeds text := by
  rw [textLines, List.length_dropLast, lineFeeds]
  induction text.toList with
  | nil => rfl
  | cons char chars ih =>
      have some := List.length_pos_iff.mpr (List.splitOn_ne_nil '\n' chars)
      rw [List.splitOn_cons_eq_if_modifyHead, List.count_cons, ← ih]
      split
      · simp
        omega
      · simp

theorem writtenOut_cons (line : String) (lines : List String) :
    writtenOut (line :: lines) = line ++ "\n" ++ writtenOut lines := by
  rw [writtenOut, List.map_cons, String.join_cons, writtenOut]

/-- Lines that are written out end in a line feed. -/
theorem getLast?_writtenOut {lines : List String} (some : lines ≠ []) :
    (writtenOut lines).toList.getLast? = .some '\n' := by
  induction lines with
  | nil => exact absurd rfl some
  | cons line lines ih =>
      rw [writtenOut_cons, String.toList_append, String.toList_append]
      cases lines with
      | nil =>
          rw [List.getLast?_append, List.getLast?_append]
          rfl
      | cons next others =>
          rw [List.getLast?_append, ih (List.cons_ne_nil _ _)]
          rfl

theorem lineFeeds_writtenOut (lines : List String) :
    lineFeeds (writtenOut lines) = lines.length + (lines.map lineFeeds).sum := by
  induction lines with
  | nil => rfl
  | cons line lines ih =>
      have feed : lineFeeds "\n" = 1 := by decide
      rw [writtenOut_cons, lineFeeds_append, lineFeeds_append, ih, feed, List.length_cons,
        List.map_cons, List.sum_cons]
      omega

/-- Lines without line feeds are the lines of their text. -/
theorem textLines_writtenOut {lines : List String} (plain : ∀ line ∈ lines, lineFeeds line = 0) :
    textLines (writtenOut lines) = lines.map String.toList := by
  induction lines with
  | nil => rfl
  | cons line lines ih =>
      obtain ⟨first, others⟩ := List.forall_mem_cons.mp plain
      have chars : (writtenOut (line :: lines)).toList =
          line.toList ++ '\n' :: (writtenOut lines).toList := by
        rw [writtenOut_cons, String.toList_append, String.toList_append, List.append_assoc]
        rfl
      rw [textLines, chars,
        List.splitOn_append_cons_self_of_not_mem (lineFeeds_eq_zero_iff.mp first),
        List.dropLast_cons_of_ne_nil (List.splitOn_ne_nil '\n' _), List.map_cons, ← ih others,
        textLines]

end RadioSnapshot
