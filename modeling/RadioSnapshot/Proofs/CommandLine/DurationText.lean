import Mathlib.Algebra.GroupWithZero.Nat
import Mathlib.Data.List.DropRight
import RadioSnapshot.CommandLine.DurationText
import RadioSnapshot.Proofs.Text.Blank

/-!
# How durations are written

A duration is written as decimal digits that make a number of 64 bits, perhaps with a plus
sign in front and a unit behind, and with any blanks around it. Every such text is read as
the duration that it says, and no other text is read.
-/

namespace RadioSnapshot

/-- The number that digits make, if they are digits and it fits. -/
theorem wordOfDigits?_eq_some_iff {digits : List Char} {value : Nat} :
    wordOfDigits? digits = some value ↔
      digits ≠ [] ∧ (∀ digit ∈ digits, digit.isDigit = true) ∧
        Nat.ofDigitChars 10 digits 0 < 2 ^ 64 ∧ Nat.ofDigitChars 10 digits 0 = value := by
  have sum : digits.foldl (fun value digit => 10 * value + (digit.toNat - 48)) 0 =
      Nat.ofDigitChars 10 digits 0 := rfl
  have size : 0x10000000000000000 = 2 ^ 64 := rfl
  rw [wordOfDigits?, sum, size, ← List.all_eq_true]
  cases digits.all Char.isDigit <;> cases digits <;> simp

/-- What may stand in front of the digits. -/
def IsSign (sign : List Char) : Prop :=
  sign = [] ∨ sign = ['+']

theorem wordOfText?_eq_some_iff {text : List Char} {value : Nat} :
    wordOfText? text = some value ↔
      ∃ sign digits, IsSign sign ∧ text = sign ++ digits ∧ wordOfDigits? digits = some value := by
  constructor
  · intro read
    rw [wordOfText?.eq_def] at read
    split at read
    next digits => exact ⟨['+'], digits, .inr rfl, rfl, read⟩
    next => exact ⟨[], text, .inl rfl, rfl, read⟩
  · rintro ⟨sign, digits, rfl | rfl, rfl, read⟩
    · have decimal := (wordOfDigits?_eq_some_iff.mp read).2.1
      rw [wordOfText?.eq_def]
      split
      next others => exact absurd (decimal '+' List.mem_cons_self) (by decide)
      next => exact read
    · exact read

theorem dropEnding?_eq_some_iff {ending text front : List Char} :
    dropEnding? ending text = some front ↔ text = front ++ ending := by
  rw [dropEnding?]
  constructor
  · intro dropped
    split at dropped
    next ends =>
      obtain ⟨before, rfl⟩ := List.isSuffixOf_iff_suffix.mp ends
      rw [List.length_append, Nat.add_sub_cancel, List.take_left, Option.some.injEq] at dropped
      rw [dropped]
    next => cases dropped
  · rintro rfl
    rw [if_pos (List.isSuffixOf_iff_suffix.mpr (List.suffix_append front ending)),
      List.length_append, Nat.add_sub_cancel, List.take_left]

theorem dropEnding?_eq_none_iff {ending text : List Char} :
    dropEnding? ending text = none ↔ ∀ front, text ≠ front ++ ending := by
  simp only [Option.eq_none_iff_forall_ne_some, ne_eq, dropEnding?_eq_some_iff]

theorem isBlank_of_isDigit {char : Char} (digit : char.isDigit = true) : isBlank char = false := by
  obtain ⟨low, high⟩ : 48 ≤ char.toNat ∧ char.toNat ≤ 57 := Char.isDigit_iff_toNat.mp digit
  simp only [isBlank, Bool.or_eq_false_iff, Bool.and_eq_false_iff, decide_eq_false_iff_not,
    beq_eq_false_iff_ne]
  omega

/-- Digits end in a digit. -/
theorem isDigit_of_append_eq {sign digits front : List Char} {char : Char}
    (decimal : ∀ digit ∈ digits, digit.isDigit = true) (some : digits ≠ [])
    (same : sign ++ digits = front ++ [char]) : char.isDigit = true := by
  have last := congrArg List.getLast? same
  rw [List.getLast?_append_of_ne_nil sign some, List.getLast?_concat] at last
  exact decimal char (List.mem_of_getLast? last)

namespace Duration

/-- The endings of a duration, and how many nanoseconds the number in front of them counts. -/
def units : List (List Char × Nat) :=
  [(['m', 's'], 1000000), (['s'], 1000000000), ([], 1000000000)]

/-- The text says this duration. -/
inductive Written : List Char → Duration → Prop
  | intro {sign digits ending : List Char} {unit : Nat} (signed : IsSign sign)
      (some : digits ≠ []) (decimal : ∀ digit ∈ digits, digit.isDigit = true)
      (fits : Nat.ofDigitChars 10 digits 0 < 2 ^ 64) (known : (ending, unit) ∈ units) :
      Written (sign ++ digits ++ ending) ⟨Nat.ofDigitChars 10 digits 0 * unit⟩

theorem Written.of_wordOfText? {text ending : List Char} {value unit : Nat}
    (read : wordOfText? text = some value) (known : (ending, unit) ∈ units) :
    Written (text ++ ending) ⟨value * unit⟩ := by
  obtain ⟨sign, digits, signed, rfl, word⟩ := wordOfText?_eq_some_iff.mp read
  obtain ⟨some, decimal, fits, rfl⟩ := wordOfDigits?_eq_some_iff.mp word
  exact .intro signed some decimal fits known

/-- A text is read as the duration that it says. -/
theorem ofChars?_eq_some_iff {text : List Char} {duration : Duration} :
    ofChars? text = some duration ↔ Written text duration := by
  constructor
  · intro read
    rw [ofChars?] at read
    split at read
    next number dropped =>
      obtain ⟨value, word, rfl⟩ := Option.map_eq_some_iff.mp read
      rw [dropEnding?_eq_some_iff.mp dropped]
      exact .of_wordOfText? word (by simp [units])
    next =>
      split at read
      next number dropped =>
        obtain ⟨value, word, rfl⟩ := Option.map_eq_some_iff.mp read
        rw [dropEnding?_eq_some_iff.mp dropped]
        exact .of_wordOfText? word (by simp [units])
      next =>
        obtain ⟨value, word, rfl⟩ := Option.map_eq_some_iff.mp read
        rw [← List.append_nil text]
        exact .of_wordOfText? word (by simp [units])
  · intro written
    obtain @⟨sign, digits, ending, unit, signed, some, decimal, fits, known⟩ := written
    have word : wordOfText? (sign ++ digits) = Option.some (Nat.ofDigitChars 10 digits 0) :=
      wordOfText?_eq_some_iff.mpr
        ⟨sign, digits, signed, rfl, wordOfDigits?_eq_some_iff.mpr ⟨some, decimal, fits, rfl⟩⟩
    have noLetter (letter : Char) (front : List Char) (plain : letter.isDigit = false) :
        sign ++ digits ≠ front ++ [letter] := by
      intro same
      rw [isDigit_of_append_eq decimal some same] at plain
      cases plain
    simp only [units, List.mem_cons, Prod.mk.injEq, List.not_mem_nil, or_false] at known
    -- A shorter ending is looked for only where the longer ones are missing.
    obtain ⟨rfl, rfl⟩ | ⟨rfl, rfl⟩ | ⟨rfl, rfl⟩ := known
    · rw [ofChars?, dropEnding?_eq_some_iff.mpr rfl]
      exact congrArg (Option.map ofMilliseconds) word
    · have noMilliseconds : dropEnding? ['m', 's'] (sign ++ digits ++ ['s']) = none := by
        rw [dropEnding?_eq_none_iff]
        intro front same
        rw [List.append_cons front 'm' ['s']] at same
        exact noLetter 'm' front rfl (List.append_cancel_right same)
      rw [ofChars?, noMilliseconds, dropEnding?_eq_some_iff.mpr rfl]
      exact congrArg (Option.map ofSeconds) word
    · have noMilliseconds : dropEnding? ['m', 's'] (sign ++ digits) = none := by
        rw [dropEnding?_eq_none_iff]
        intro front same
        rw [List.append_cons front 'm' ['s']] at same
        exact noLetter 's' (front ++ ['m']) rfl same
      have noSeconds : dropEnding? ['s'] (sign ++ digits) = none :=
        dropEnding?_eq_none_iff.mpr fun front => noLetter 's' front rfl
      rw [List.append_nil, ofChars?, noMilliseconds, noSeconds]
      exact congrArg (Option.map ofSeconds) word

theorem Written.ne_nil {text : List Char} {duration : Duration} (written : Written text duration) :
    text ≠ [] := by
  obtain ⟨_, some, _⟩ := written
  simp [some]

/-- There are no blanks at the ends of what says a duration. -/
theorem Written.compact {text : List Char} {duration : Duration}
    (written : Written text duration) : Compact text := by
  obtain @⟨sign, digits, ending, unit, signed, some, decimal, fits, known⟩ := written
  constructor
  · intro char head
    obtain ⟨first, others, rfl⟩ := List.exists_cons_of_ne_nil some
    rcases signed with rfl | rfl
    · rw [← Option.some.inj head]
      exact isBlank_of_isDigit (decimal first List.mem_cons_self)
    · rw [← Option.some.inj head]
      rfl
  · intro char last
    by_cases bare : ending = []
    · rw [bare, List.append_nil, List.getLast?_append_of_ne_nil sign some] at last
      exact isBlank_of_isDigit (decimal char (List.mem_of_getLast? last))
    · rw [List.getLast?_append_of_ne_nil _ bare] at last
      simp only [units, List.mem_cons, Prod.mk.injEq, List.not_mem_nil, or_false] at known
      obtain ⟨rfl, rfl⟩ | ⟨rfl, rfl⟩ | ⟨rfl, rfl⟩ := known
      · rw [← Option.some.inj last]
        rfl
      · rw [← Option.some.inj last]
        rfl
      · exact absurd rfl bare

/-- The text of an option says this duration, with any blanks around it. -/
inductive Said (input : String) (duration : Duration) : Prop
  | intro {before text after : List Char} (blankBefore : Blank before) (blankAfter : Blank after)
      (split : input.toList = before ++ text ++ after) (written : Written text duration)

theorem said_iff {input : String} {duration : Duration} :
    Said input duration ↔ Written (trim input).toList duration := by
  constructor
  · rintro ⟨blankBefore, blankAfter, split, written⟩
    rw [toList_trim_eq blankBefore blankAfter written.compact split]
    exact written
  · intro written
    obtain ⟨before, after, blankBefore, blankAfter, split⟩ := exists_blanks_trim input
    exact ⟨blankBefore, blankAfter, split, written⟩

theorem parse_eq_ok_iff {option input : String} {duration : Duration} :
    parse option input = .ok duration ↔ Said input duration := by
  rw [said_iff, parse]
  split
  next nothing =>
    constructor
    · intro parsed
      cases parsed
    · intro written
      rw [String.isEmpty_iff.mp nothing] at written
      exact absurd rfl written.ne_nil
  next =>
    rw [← ofChars?_eq_some_iff]
    cases ofChars? (trim input).toList <;> simp

/-- What is not read is refused as the value of an option. -/
theorem parse_eq_error {option input : String} {error : ExitError}
    (refused : parse option input = .error error) : error.code = .invalidOptionValue := by
  rw [parse] at refused
  split at refused
  · rw [← Except.error.inj refused]
  · split at refused
    · cases refused
    · rw [← Except.error.inj refused]

/-- A number in front of an ending says so many of its units. -/
theorem said_toString {number : Nat} (fits : number < 2 ^ 64) {ending : List Char} {unit : Nat}
    (known : (ending, unit) ∈ units) :
    Said (toString number ++ .ofList ending) ⟨number * unit⟩ := by
  have value : Nat.ofDigitChars 10 (Nat.toDigits 10 number) 0 = number :=
    Nat.ofDigitChars_ten_toDigits
  have written : Written ([] ++ Nat.toDigits 10 number ++ ending)
      ⟨Nat.ofDigitChars 10 (Nat.toDigits 10 number) 0 * unit⟩ :=
    .intro (.inl rfl) Nat.toDigits_ne_nil
      (fun digit => Nat.isDigit_of_mem_toDigits (by decide) (by decide))
      (by rw [value]; exact fits) known
  rw [value] at written
  refine @Said.intro _ _ [] _ [] ?_ ?_ ?_ written
  · exact List.forall_mem_nil _
  · exact List.forall_mem_nil _
  · simp [String.toList_append]

/-- A text is read as the duration that it says, and refused if it says none.

It says one if, between blanks, it is a number of 64 bits in decimal digits, leading zeros
and a plus sign allowed, and perhaps `ms` or `s` behind it. The number counts milliseconds in
front of `ms`, of a million nanoseconds each, and seconds otherwise, of a thousand million. In
particular every number of 64 bits is read back with each unit. -/
theorem parse_iff_said (option input : String) :
    (∀ duration, parse option input = .ok duration ↔ Said input duration) ∧
    ((∀ duration, ¬Said input duration) ↔
      ∃ error, parse option input = .error error ∧ error.code.number = 64) ∧
    ∀ number < 2 ^ 64,
      parse option (toString number ++ "ms") = .ok ⟨number * 1000000⟩ ∧
      parse option (toString number ++ "s") = .ok ⟨number * 1000000000⟩ ∧
      parse option (toString number) = .ok ⟨number * 1000000000⟩ := by
  refine ⟨fun duration => parse_eq_ok_iff, ?_, ?_⟩
  · constructor
    · intro silent
      cases parsed : parse option input with
      | ok duration => exact absurd (parse_eq_ok_iff.mp parsed) (silent duration)
      | error error =>
          refine ⟨error, rfl, ?_⟩
          rw [parse_eq_error parsed]
          rfl
    · rintro ⟨error, refused, _⟩ duration said
      rw [← @parse_eq_ok_iff option, refused] at said
      cases said
  · intro number fits
    refine ⟨?_, ?_, ?_⟩
    · exact parse_eq_ok_iff.mpr (said_toString fits (by simp [units]))
    · exact parse_eq_ok_iff.mpr (said_toString fits (by simp [units]))
    · have said : Said (toString number ++ String.ofList []) ⟨number * 1000000000⟩ :=
        said_toString fits (by simp [units])
      rw [String.ofList_nil, String.append_empty] at said
      exact parse_eq_ok_iff.mpr said

/-- The largest number is read, and no larger one. -/
theorem parse_iff_said_largest :
    parse "timeout" "18446744073709551615ms" = .ok ⟨18446744073709551615000000⟩ ∧
      parse "timeout" " +0018446744073709551615\t" = .ok ⟨18446744073709551615000000000⟩ ∧
      ∀ duration, ¬Said "18446744073709551616ms" duration := by
  have spelled : toString 18446744073709551615 ++ "ms" = "18446744073709551615ms" := by
    decide +kernel
  refine ⟨?_, ?_, ?_⟩
  · rw [← spelled]
    exact ((parse_iff_said "timeout" "").2.2 18446744073709551615 (by decide)).1
  · decide +kernel
  · have refused : parse "timeout" "18446744073709551616ms" = .error ⟨.invalidOptionValue,
        "invalid timeout value: 18446744073709551616ms"⟩ := by
      decide +kernel
    exact (parse_iff_said "timeout" "18446744073709551616ms").2.1.mpr ⟨_, refused, rfl⟩

end Duration

end RadioSnapshot
