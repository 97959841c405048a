import RadioSnapshot.Decimal.Shortest
import RadioSnapshot.Proofs.Text.Numeral

/-!
# Decimals as numbers in JSON

The text of a finite word is a number with a fraction or an exponent. For this it matters that
the shortest decimal of a word that is not zero has a digit that is not zero, since a number
does not begin with a superfluous zero.
-/

namespace RadioSnapshot

namespace Decimal

variable {interval : Interval} {exponent : Int}

theorem Interval.unit_pos (interval : Interval) (exponent : Int) : 0 < interval.unit exponent :=
  Nat.mul_pos (Nat.pow_pos (by decide)) (Nat.pow_pos (by decide))

/-- What lies in an interval of positive numbers is positive. -/
theorem Interval.pos_of_contains {digits : Nat}
    (contained : interval.contains exponent digits = true) (positive : 0 < interval.low) :
    0 < digits := by
  have low := Nat.mul_pos positive (interval.unit_pos exponent)
  have above : 0 < digits * interval.step exponent := by
    rw [contains] at contained
    split at contained
    all_goals
      simp only [Bool.and_eq_true, decide_eq_true_eq] at contained
      omega
  exact Nat.pos_of_mul_pos_right above

/-- The point that is taken of a grid lies in the interval. -/
theorem Interval.contains_of_nearest? {digits : Nat}
    (nearest : interval.nearest? exponent = some digits) :
    interval.contains exponent digits = true := by
  rw [nearest?] at nearest
  dsimp only at nearest
  split at nearest
  next => cases nearest
  next below _ =>
    cases nearest
    exact below
  next _ above =>
    cases nearest
    exact above
  next below above =>
    split at nearest
    · cases nearest
      exact below
    · split at nearest
      · cases nearest
        exact above
      · split at nearest
        · cases nearest
          exact below
        · cases nearest
          exact above

theorem significand_pos {word : Binary32} (nonzero : word.isZero = false) :
    0 < word.significand := by
  simp only [Binary32.isZero, Bool.and_eq_false_iff, beq_eq_false_iff_ne] at nonzero
  rw [Binary32.significand]
  split <;> omega

/-- The shortest decimal of a word that is not zero is not zero either. -/
theorem digits_shortest_pos {word : Binary32} (nonzero : word.isZero = false) :
    0 < (shortest word).digits := by
  have positive := significand_pos nonzero
  have low : 0 < (Interval.ofWord word).low := by
    rw [Interval.ofWord]
    dsimp only
    split <;> omega
  rw [shortest]
  dsimp only
  cases found : (List.range 10).findSome? fun (finer : Nat) =>
      ((Interval.ofWord word).nearest?
        ((Interval.ofWord word).leadingExponent + 1 - (finer : Int))).map fun digits =>
          (⟨digits, (Interval.ofWord word).leadingExponent + 1 - (finer : Int)⟩ : Decimal)
    with
  | some decimal =>
      obtain ⟨finer, _, given⟩ := List.exists_of_findSome?_eq_some found
      obtain ⟨digits, nearest, rfl⟩ := Option.map_eq_some_iff.mp given
      exact Interval.pos_of_contains (Interval.contains_of_nearest? nearest) low
  | none =>
      rw [Option.getD_none, exact]
      split
      · exact Nat.mul_pos positive (Nat.pow_pos (by decide))
      · exact Nat.mul_pos positive (Nat.pow_pos (by decide))

/-- A number in plain notation has a point. -/
theorem literal_plainText (negative : Bool) {digits : List Char} (given : Digits digits)
    (leader : digits.head? ≠ some '0') (leading : Int) :
    Literal (signChars negative ++ plainText digits leading) := by
  have zeros (count : Nat) : ∀ char ∈ List.replicate count '0', char.isDigit = true := by
    intro char member
    rw [List.eq_of_mem_replicate member]
    rfl
  rw [plainText]
  split
  · have shape (between : List Char) : signChars negative ++ (['0', '.'] ++ between ++ digits) =
        signChars negative ++ ['0'] ++ '.' :: (between ++ digits) ++ [] := by
      simp
    have behind : Digits (List.replicate (-leading - 1).toNat '0' ++ digits) :=
      ⟨List.append_ne_nil_of_right_ne_nil _ given.some,
        List.forall_mem_append.mpr ⟨zeros _, given.digits⟩⟩
    rw [shape]
    exact .mk negative (whole_toDigits 0) (.point behind) .missing (List.cons_ne_nil _ _)
  · have shape (whole fraction : List Char) : signChars negative ++ (whole ++ '.' :: fraction) =
        signChars negative ++ whole ++ '.' :: fraction ++ [] := by
      simp
    obtain ⟨first, others, rfl⟩ := List.exists_cons_of_ne_nil given.some
    have digit := List.forall_mem_cons.mp given.digits
    have front : Whole ((first :: others).take (leading.toNat + 1) ++
        List.replicate (leading.toNat + 1 - (first :: others).length) '0') := by
      refine ⟨⟨List.cons_ne_nil _ _, List.forall_mem_append.mpr ⟨?_, zeros _⟩⟩, ?_⟩
      · exact fun char member => given.digits char (List.mem_of_mem_take member)
      · exact fun zero => absurd zero leader
    have behind : Digits (if ((first :: others).drop (leading.toNat + 1)).isEmpty then ['0']
        else (first :: others).drop (leading.toNat + 1)) := by
      split
      · exact digits_toDigits 0
      next some =>
        refine ⟨fun nothing => some (List.isEmpty_iff.mpr nothing), fun char member => ?_⟩
        exact given.digits char (List.mem_of_mem_drop member)
    dsimp only
    rw [shape]
    exact .mk negative front (.point behind) .missing (List.cons_ne_nil _ _)

/-- A number in scientific notation has an exponent. -/
theorem literal_scientificText (negative : Bool) {digits : List Char} (given : Digits digits)
    (leading : Int) : Literal (signChars negative ++ scientificText digits leading) := by
  have shape (whole fraction exponent : List Char) :
      signChars negative ++ (whole ++ fraction ++ exponent) =
        signChars negative ++ whole ++ fraction ++ exponent := by
    simp
  obtain ⟨first, others, rfl⟩ := List.exists_cons_of_ne_nil given.some
  obtain ⟨digit, more⟩ := List.forall_mem_cons.mp given.digits
  have front : Whole [first] := by
    refine ⟨⟨List.cons_ne_nil _ _, List.forall_mem_singleton.mpr digit⟩, ?_⟩
    rintro ⟨⟩
    rfl
  have behind : Fraction (if others.isEmpty then [] else '.' :: others) := by
    split
    · exact .missing
    next some => exact .point ⟨fun nothing => some (List.isEmpty_iff.mpr nothing), more⟩
  have exponent : Exponent ('e' :: (if leading < 0 then '-' else '+') ::
      Nat.toDigits 10 leading.natAbs) := by
    refine .mark ?_ (digits_toDigits _)
    split
    · exact .inr rfl
    · exact .inl rfl
  rw [scientificText]
  dsimp only [List.drop_succ_cons, List.drop_zero, List.take_succ_cons, List.take_zero]
  rw [shape]
  exact .mk negative front behind exponent
    (List.append_ne_nil_of_right_ne_nil _ (List.cons_ne_nil _ _))

/-- The text of a positive decimal is a number that is not written as an integer. -/
theorem literal_text (negative : Bool) {decimal : Decimal} (positive : 0 < decimal.digits) :
    Literal (signChars negative ++ decimal.text) := by
  rw [text]
  split
  · exact literal_plainText negative (digits_toDigits _) (head?_toDigits_ne_zero positive) _
  · exact literal_scientificText negative (digits_toDigits _) _

end Decimal

/-- The text of a word is a number that is not written as an integer. -/
theorem Binary32.literal_text (word : Binary32) : Literal word.text := by
  have signed : word.text = signChars word.isNegative ++
      if word.isZero then ['0', '.', '0'] else (Decimal.shortest word).text := by
    rw [text]
    cases word.isNegative <;> rfl
  rw [signed]
  split
  · have shape : signChars word.isNegative ++ ['0', '.', '0'] =
        signChars word.isNegative ++ ['0'] ++ '.' :: ['0'] ++ [] := by
      simp
    rw [shape]
    exact .mk word.isNegative (whole_toDigits 0) (.point (digits_toDigits 0)) .missing
      (List.cons_ne_nil _ _)
  next nonzero =>
    exact Decimal.literal_text _ (Decimal.digits_shortest_pos (Bool.eq_false_iff.mpr nonzero))

end RadioSnapshot
