import Mathlib.Data.List.DropRight
import RadioSnapshot.Text.Blank

/-!
# Laws of trimming

Trimming takes blanks off the ends of a text, all of them and nothing else.
-/

namespace RadioSnapshot

/-- Nothing but blanks. -/
def Blank (chars : List Char) : Prop :=
  ∀ char ∈ chars, isBlank char = true

/-- What stands at the ends is no blank. -/
structure Compact (chars : List Char) : Prop where
  first : ∀ char, chars.head? = some char → isBlank char = false
  last : ∀ char, chars.getLast? = some char → isBlank char = false

theorem trimEndChars_eq_rdropWhile (chars : List Char) :
    trimEndChars chars = chars.rdropWhile isBlank := rfl

/-- Blanks at the end are taken off. -/
theorem trimEndChars_append_blank (chars : List Char) {after : List Char} (blank : Blank after) :
    trimEndChars (chars ++ after) = trimEndChars chars := by
  have taken : ∀ char ∈ after.reverse, isBlank char = true := by
    intro char member
    exact blank char (List.mem_reverse.mp member)
  rw [trimEndChars, List.reverse_append, List.dropWhile_append_of_pos taken, trimEndChars]

/-- Without a blank at the end nothing is taken off. -/
theorem trimEndChars_eq_self {chars : List Char}
    (last : ∀ char, chars.getLast? = some char → isBlank char = false) :
    trimEndChars chars = chars := by
  rw [trimEndChars_eq_rdropWhile, List.rdropWhile_eq_self_iff]
  intro some blank
  rw [last _ (List.getLast?_eq_some_getLast some)] at blank
  cases blank

/-- Trimming gives back what stands between the blanks. -/
theorem toList_trim_eq {text : String} {before core after : List Char}
    (blankBefore : Blank before) (blankAfter : Blank after) (compact : Compact core)
    (split : text.toList = before ++ core ++ after) : (trim text).toList = core := by
  rw [trim, String.toList_ofList, split, List.append_assoc,
    List.dropWhile_append_of_pos blankBefore]
  cases core with
  | nil =>
      have nothing : after.dropWhile isBlank = [] := List.dropWhile_eq_nil_iff.mpr blankAfter
      rw [List.nil_append, nothing]
      rfl
  | cons first core =>
      have kept : ¬isBlank first = true := by
        rw [compact.first first rfl]
        exact Bool.false_ne_true
      rw [List.cons_append, List.dropWhile_cons_of_neg kept, ← List.cons_append,
        trimEndChars_append_blank _ blankAfter, trimEndChars_eq_self compact.last]

/-- What trimming takes off are blanks. -/
theorem exists_blanks_trim (text : String) :
    ∃ before after, Blank before ∧ Blank after ∧
      text.toList = before ++ (trim text).toList ++ after := by
  refine ⟨text.toList.takeWhile isBlank,
    (text.toList.dropWhile isBlank).rtakeWhile isBlank, ?_, ?_, ?_⟩
  · exact fun char member => List.mem_takeWhile_imp member
  · exact fun char member => List.mem_rtakeWhile_imp member
  · rw [trim, String.toList_ofList, trimEndChars_eq_rdropWhile, List.append_assoc,
      List.rdropWhile_append_rtakeWhile, List.takeWhile_append_dropWhile]

end RadioSnapshot
