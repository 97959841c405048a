import Mathlib.Data.List.Basic
import RadioSnapshot.Proofs.Text.JsonReader
import RadioSnapshot.Proofs.Text.Lines

/-!
# Numbers in JSON

A number in JSON is a sign, an integer part, a fraction and an exponent, of which only the
integer part is always there. A reader finds these parts again in front of anything that
cannot belong to a number.
-/

namespace RadioSnapshot

/-- Some digits. -/
structure Digits (chars : List Char) : Prop where
  some : chars ≠ []
  digits : ∀ char ∈ chars, char.isDigit = true

/-- Digits as an integer begins with. -/
structure Whole (chars : List Char) : Prop extends Digits chars where
  /-- No zero stands in front of other digits. -/
  zero : chars.head? = .some '0' → chars = ['0']

/-- A point and digits, or nothing. -/
inductive Fraction : List Char → Prop
  | missing : Fraction []
  | point {digits : List Char} (given : Digits digits) : Fraction ('.' :: digits)

/-- A mark, a sign and digits, or nothing. -/
inductive Exponent : List Char → Prop
  | missing : Exponent []
  | mark {sign : Char} {digits : List Char} (signed : sign = '+' ∨ sign = '-')
      (given : Digits digits) : Exponent ('e' :: sign :: digits)

/-- The sign of a number that may be negative. -/
def signChars (negative : Bool) : List Char :=
  if negative then ['-'] else []

/-- A number that is not written as an integer. -/
inductive Literal : List Char → Prop
  | mk (negative : Bool) {whole fraction exponent : List Char} (wholePart : Whole whole)
      (fractionPart : Fraction fraction) (exponentPart : Exponent exponent)
      (fractional : fraction ++ exponent ≠ []) :
      Literal (signChars negative ++ whole ++ fraction ++ exponent)

/-- A number begins with a sign, perhaps, and its integer part. -/
theorem Literal.exists_whole {literal : List Char} (given : Literal literal) :
    ∃ negative whole rest, Whole whole ∧ literal = signChars negative ++ whole ++ rest := by
  obtain ⟨negative, wholePart, _, _, _⟩ := given
  exact ⟨negative, _, _, wholePart, List.append_assoc _ _ _⟩

/-- What can stand behind a value: the end, or what comes behind an element or a member. -/
def Closes (rest : List Char) : Prop :=
  ∀ char, rest.head? = some char → char = ',' ∨ char = ']' ∨ char = '}'

theorem closes_nil : Closes [] := by
  rintro _ ⟨⟩

theorem closes_cons {char : Char} (closing : char = ',' ∨ char = ']' ∨ char = '}')
    (rest : List Char) : Closes (char :: rest) := by
  rintro _ ⟨⟩
  exact closing

/-- What is no part of a number cannot stand in it. -/
theorem Closes.head_ne {rest : List Char} (closes : Closes rest) {char : Char}
    (other : char ≠ ',' ∧ char ≠ ']' ∧ char ≠ '}') : rest.head? ≠ some char := fun head => by
  obtain comma | bracket | brace := closes char head
  · exact other.1 comma
  · exact other.2.1 bracket
  · exact other.2.2 brace

theorem Closes.undigit {rest : List Char} (closes : Closes rest) :
    ∀ char, rest.head? = some char → char.isDigit = false := by
  intro char head
  obtain rfl | rfl | rfl := closes char head <;> decide

/-- The digits of a number. -/
theorem digits_toDigits (number : Nat) : Digits (Nat.toDigits 10 number) where
  some := Nat.toDigits_ne_nil
  digits _ member := Nat.isDigit_of_mem_toDigits (by decide) (by decide) member

/-- A number does not begin with a zero, save zero itself. -/
theorem head?_toDigits_ne_zero {number : Nat} (positive : 0 < number) :
    (Nat.toDigits 10 number).head? ≠ some '0' := by
  induction number using Nat.strongRecOn with
  | _ number ih =>
      by_cases small : number < 10
      · rw [Nat.toDigits_of_lt_base small]
        intro zero
        have digit : number.digitChar = '0' := Option.some.inj zero
        rw [Nat.digitChar_eq_zero] at digit
        omega
      · have shorter := ih (number / 10) (by omega) (by omega)
        rw [Nat.toDigits_of_base_le (by decide) (by omega),
          List.head?_append_of_ne_nil _ Nat.toDigits_ne_nil]
        exact shorter

theorem whole_toDigits (number : Nat) : Whole (Nat.toDigits 10 number) where
  toDigits := digits_toDigits number
  zero leading := by
    rcases Nat.eq_zero_or_pos number with rfl | positive
    · rfl
    · exact absurd leading (head?_toDigits_ne_zero positive)

/-! ## One line -/

theorem Digits.inline {chars : List Char} (given : Digits chars) :
    ∀ char ∈ chars, Inline char := by
  intro char member
  have value := (Char.isDigit_iff_toNat.mp (given.digits char member)).1
  have zero : '0'.toNat = 48 := rfl
  rw [Inline]
  omega

theorem inline_signChars (negative : Bool) : ∀ char ∈ signChars negative, Inline char := by
  cases negative <;> exact inline_of_all rfl

theorem Fraction.inline {chars : List Char} (given : Fraction chars) :
    ∀ char ∈ chars, Inline char := by
  cases given with
  | missing => exact List.forall_mem_nil _
  | point given => exact List.forall_mem_cons.mpr ⟨by decide, given.inline⟩

theorem Exponent.inline {chars : List Char} (given : Exponent chars) :
    ∀ char ∈ chars, Inline char := by
  cases given with
  | missing => exact List.forall_mem_nil _
  | @mark sign digits signed given =>
      have visible : Inline sign := by
        obtain rfl | rfl := signed <;> decide
      exact List.forall_mem_cons.mpr
        ⟨by decide, List.forall_mem_cons.mpr ⟨visible, given.inline⟩⟩

theorem Literal.inline {literal : List Char} (given : Literal literal) :
    ∀ char ∈ literal, Inline char := by
  obtain ⟨negative, wholePart, fractionPart, exponentPart, _⟩ := given
  simp only [List.forall_mem_append]
  exact ⟨⟨⟨inline_signChars negative, wholePart.inline⟩, fractionPart.inline⟩,
    exponentPart.inline⟩

/-! ## Reading -/

namespace Document

/-- The digits in front of something else. -/
theorem digits?_append {digits rest : List Char} (given : Digits digits)
    (undigit : ∀ char, rest.head? = some char → char.isDigit = false) :
    digits? (digits ++ rest) = some (digits, rest) := by
  have stops : rest.takeWhile Char.isDigit = [] ∧ rest.dropWhile Char.isDigit = rest := by
    cases rest with
    | nil => exact ⟨rfl, rfl⟩
    | cons char rest =>
        have other := undigit char rfl
        simp [other]
  have some : ¬digits.isEmpty = true := fun empty => given.some (List.isEmpty_iff.mp empty)
  rw [digits?, List.takeWhile_append_of_pos given.digits, stops.1, List.append_nil,
    List.dropWhile_append_of_pos given.digits, stops.2, if_neg some]

theorem whole?_append {whole rest : List Char} (given : Whole whole)
    (undigit : ∀ char, rest.head? = some char → char.isDigit = false) :
    whole? (whole ++ rest) = some (whole, rest) := by
  have fine : ¬(whole.head? = some '0' ∧ whole ≠ ['0']) := fun superfluous =>
    superfluous.2 (given.zero superfluous.1)
  rw [whole?, digits?_append given.toDigits undigit]
  exact if_neg fine

theorem fraction?_append {fraction rest : List Char} (given : Fraction fraction)
    (undigit : ∀ char, rest.head? = some char → char.isDigit = false)
    (pointless : rest.head? ≠ some '.') :
    fraction? (fraction ++ rest) = some (fraction, rest) := by
  cases given with
  | missing =>
      rw [List.nil_append, fraction?]
      rintro others rfl
      exact pointless rfl
  | point given =>
      rw [List.cons_append, fraction?, digits?_append given undigit]
      rfl

theorem exponent?_append {exponent rest : List Char} (given : Exponent exponent)
    (closes : Closes rest) : exponent? (exponent ++ rest) = some (exponent, rest) := by
  cases given with
  | missing =>
      cases rest with
      | nil => rfl
      | cons char rest =>
          have unmarked : ¬(char = 'e' ∨ char = 'E') := by
            obtain rfl | rfl | rfl := closes char rfl <;> decide
          rw [List.nil_append, exponent?, if_neg unmarked]
  | mark signed given =>
      rw [List.cons_append, List.cons_append, exponent?, if_pos (.inl rfl), signed?,
        if_pos signed, digits?_append given closes.undigit]
      rfl

/-- What follows the integer part is no digit. -/
theorem undigit_of_parts {fraction exponent rest : List Char} (fractionPart : Fraction fraction)
    (exponentPart : Exponent exponent) (closes : Closes rest) :
    ∀ char, (fraction ++ (exponent ++ rest)).head? = some char → char.isDigit = false := by
  cases fractionPart with
  | missing =>
      cases exponentPart with
      | missing => exact closes.undigit
      | mark signed given =>
          rintro _ ⟨⟩
          rfl
  | point given =>
      rintro _ ⟨⟩
      rfl

/-- What follows the fraction is no point. -/
theorem pointless_of_parts {exponent rest : List Char} (exponentPart : Exponent exponent)
    (closes : Closes rest) : (exponent ++ rest).head? ≠ some '.' := by
  cases exponentPart with
  | missing => exact closes.head_ne (by decide)
  | mark signed given => rintro ⟨⟩

/-- A number is read as its parts. -/
theorem number?_append (negative : Bool) {whole fraction exponent rest : List Char}
    (wholePart : Whole whole) (fractionPart : Fraction fraction)
    (exponentPart : Exponent exponent) (closes : Closes rest) :
    number? (signChars negative ++ whole ++ fraction ++ exponent ++ rest) =
      some (if (fraction ++ exponent).isEmpty then
          .integer
            (if negative then -(Nat.ofDigitChars 10 whole 0) else Nat.ofDigitChars 10 whole 0)
        else .fractional (signChars negative ++ whole ++ fraction ++ exponent), rest) := by
  have behindWhole := undigit_of_parts fractionPart exponentPart closes
  have behindFraction : ∀ char, (exponent ++ rest).head? = some char → char.isDigit = false :=
    undigit_of_parts .missing exponentPart closes
  have pointless := pointless_of_parts exponentPart closes
  have sign : (if (signChars negative ++ (whole ++ (fraction ++ (exponent ++ rest)))).head? =
      some '-' then ['-'] else []) = signChars negative := by
    cases negative with
    | true => rfl
    | false =>
        obtain ⟨first, others, rfl⟩ := List.exists_cons_of_ne_nil wholePart.some
        have digit := wholePart.digits first List.mem_cons_self
        refine if_neg ?_
        rintro ⟨⟩
        cases digit
  have signed : (signChars negative).isEmpty = !negative := by
    cases negative <;> rfl
  simp only [List.append_assoc] at sign ⊢
  simp only [number?, sign, List.drop_left, whole?_append wholePart behindWhole,
    fraction?_append fractionPart behindFraction pointless,
    exponent?_append exponentPart closes, signed, Option.bind_eq_bind, Option.bind_some,
    List.append_assoc]
  cases negative <;> split <;> rfl

/-- A number that is no integer is read as it is written. -/
theorem number?_literal {literal rest : List Char} (given : Literal literal)
    (closes : Closes rest) : number? (literal ++ rest) = some (.fractional literal, rest) := by
  obtain ⟨negative, wholePart, fractionPart, exponentPart, fractional⟩ := given
  rw [number?_append negative wholePart fractionPart exponentPart closes, if_neg]
  exact fun empty => fractional (List.isEmpty_iff.mp empty)

end Document

end RadioSnapshot
