import Mathlib.Data.List.Basic
import RadioSnapshot.Wire.Skip

/-!
# Numbers and keys are read as they were written

A number is read from any of its forms and from nothing else, and so is a key whose tag
fits its number. What follows in the input is left alone. In particular the shortest form
of a number below `Varint.bound` is read back as that number.
-/

namespace RadioSnapshot.Wire

/-- Two steps succeed when the first does and then the second. -/
theorem bind_eq_ok_iff {ε α β : Type} {first : Except ε α} {second : α → Except ε β}
    {result : β} :
    (first >>= second) = .ok result ↔
      ∃ value, first = .ok value ∧ second value = .ok result := by
  cases first with
  | error error => simp [bind, Except.bind]
  | ok value => simp [bind, Except.bind]

theorem WireType.code_of_ofCode? {code : Nat} {wireType : WireType}
    (known : ofCode? code = some wireType) : wireType.code = code := by
  unfold ofCode? at known
  split at known <;> cases known <;> rfl

namespace Varint

/-- Numbers that take up to 64 bits are below it. -/
def bound : Nat := 0x10000000000000000

@[simp] theorem length_encode (value : Nat) : (encode value).length = encodedLength value := by
  fun_induction encode value with
  | case1 value small => rw [encodedLength, if_pos small, List.length_singleton]
  | case2 value large ih =>
      rw [encodedLength, if_neg large, List.length_cons, ih, Nat.add_comm]

theorem encodedLength_pos (value : Nat) : 0 < encodedLength value := by
  rw [encodedLength]
  split
  · exact Nat.one_pos
  · exact Nat.add_pos_left Nat.one_pos _

/-- So many digits are enough for numbers below that power of the base. -/
theorem encodedLength_le {count value : Nat} (small : value < Nat.pow 128 (count + 1)) :
    encodedLength value ≤ count + 1 := by
  induction count generalizing value with
  | zero =>
      have single : encodedLength value = 1 := by rw [encodedLength, if_pos small]
      exact Nat.le_of_eq single
  | succ count ih =>
      rw [encodedLength]
      split
      next => exact Nat.le_add_left 1 _
      next =>
        have smaller : value / 128 < Nat.pow 128 (count + 1) := by
          apply Nat.div_lt_of_lt_mul
          rw [Nat.mul_comm]
          exact small
        have fewer := ih smaller
        omega

/-- Greater numbers have no fewer digits. -/
theorem encodedLength_mono {value greater : Nat} (grows : value ≤ greater) :
    encodedLength value ≤ encodedLength greater := by
  fun_induction encodedLength greater generalizing value with
  | case1 greater small =>
      have single : encodedLength value = 1 := by
        rw [encodedLength, if_pos (Nat.lt_of_le_of_lt grows small)]
      exact Nat.le_of_eq single
  | case2 greater large ih =>
      have fewer := ih (Nat.div_le_div_right grows)
      rw [encodedLength]
      split
      next => exact Nat.le_add_right 1 _
      next => exact Nat.add_le_add_left fewer 1

/-- These are the digits of the number in base 128, least significant first, all but the
last with the top bit set. Zeros may stand in front of the number, that is, at the end. -/
inductive Spells : Nat → List UInt8 → Prop where
  | last {digit : UInt8} : digit.toNat < 128 → Spells digit.toNat [digit]
  | more {digit : UInt8} {high : Nat} {digits : List UInt8} :
      ¬ digit.toNat < 128 → Spells high digits →
      Spells (digit.toNat - 128 + 128 * high) (digit :: digits)

theorem spells_encode (value : Nat) : Spells value (encode value) := by
  fun_induction encode value with
  | case1 value small =>
      have digit : (UInt8.ofNat value).toNat = value := by
        rw [UInt8.toNat_ofNat']
        omega
      have single := @Spells.last (UInt8.ofNat value) (by rwa [digit])
      rwa [digit] at single
  | case2 value large ih =>
      have digit : (UInt8.ofNat (value % 128 + 128)).toNat = value % 128 + 128 := by
        rw [UInt8.toNat_ofNat']
        omega
      have continued := @Spells.more (UInt8.ofNat (value % 128 + 128)) _ _ (by omega) ih
      have whole : value % 128 + 128 - 128 + 128 * (value / 128) = value := by omega
      rwa [digit, whole] at continued

theorem Spells.ne_nil {value : Nat} {digits : List UInt8} (spells : Spells value digits) :
    digits ≠ [] := by
  cases spells <;> exact List.cons_ne_nil _ _

/-- The last digit is known by its top bit, so the digits of a number never go on as the
digits of another. -/
theorem Spells.unique {first second : Nat} {digits others rest behind : List UInt8}
    (left : Spells first digits) (right : Spells second others)
    (same : digits ++ rest = others ++ behind) :
    first = second ∧ digits = others ∧ rest = behind := by
  induction left generalizing second others with
  | last small =>
      cases right with
      | last _ =>
          obtain ⟨rfl, rfl⟩ := List.cons.inj same
          exact ⟨rfl, rfl, rfl⟩
      | more large _ =>
          obtain ⟨rfl, _⟩ := List.cons.inj same
          exact absurd small large
  | more large _ ih =>
      cases right with
      | last small =>
          obtain ⟨rfl, _⟩ := List.cons.inj same
          exact absurd small large
      | more _ others =>
          obtain ⟨rfl, tails⟩ := List.cons.inj same
          obtain ⟨rfl, rfl, rfl⟩ := ih others tails
          exact ⟨rfl, rfl, rfl⟩

/-- A number is read from its digits, if so many are read, and from nothing else. -/
theorem digits?_eq_some_iff {count value : Nat} {input rest : List UInt8} :
    digits? count input = some (value, rest) ↔
      ∃ digits, Spells value digits ∧ digits.length ≤ count ∧ input = digits ++ rest := by
  constructor
  · intro read
    induction count generalizing value input with
    | zero => simp [digits?] at read
    | succ count ih =>
        cases input with
        | nil => simp [digits?] at read
        | cons digit input =>
            rw [digits?] at read
            split at read
            next small =>
              cases read
              exact ⟨[digit], .last small, Nat.le_add_left 1 count, rfl⟩
            next large =>
              obtain ⟨⟨high, behind⟩, others, whole⟩ := Option.map_eq_some_iff.mp read
              cases whole
              obtain ⟨digits, spells, fits, rfl⟩ := ih others
              exact ⟨digit :: digits, .more large spells, Nat.succ_le_succ fits, rfl⟩
  · rintro ⟨digits, spells, fits, rfl⟩
    induction spells generalizing count with
    | last small =>
        obtain ⟨count, rfl⟩ := Nat.exists_eq_add_of_le' fits
        exact if_pos small
    | more large _ ih =>
        obtain ⟨count, rfl⟩ := Nat.exists_eq_add_of_le' (Nat.le_trans (Nat.le_add_left 1 _) fits)
        rw [List.cons_append, digits?, if_neg large, ih (Nat.le_of_succ_le_succ fits)]
        rfl

/-- These are digits from which a reader takes the number. -/
structure Written (value : Nat) (digits : List UInt8) : Prop where
  spells : Spells value digits
  short : digits.length ≤ maxDigits
  small : value < bound

theorem written_encode {value : Nat} (small : value < bound) : Written value (encode value) where
  spells := spells_encode value
  short := by
    rw [length_encode]
    exact encodedLength_le (Nat.lt_of_lt_of_le small (by decide))
  small := small

theorem decode_eq_ok_iff {value : Nat} {input rest : List UInt8} :
    decode input = .ok (value, rest) ↔
      ∃ digits, Written value digits ∧ input = digits ++ rest := by
  rw [decode]
  constructor
  · intro read
    split at read
    next number behind digits =>
      split at read
      next small =>
        cases read
        obtain ⟨digits, spells, short, split⟩ := digits?_eq_some_iff.mp digits
        exact ⟨digits, ⟨spells, short, small⟩, split⟩
      next => cases read
    next => cases read
  · rintro ⟨digits, ⟨spells, short, small⟩, split⟩
    rw [digits?_eq_some_iff.mpr ⟨digits, spells, short, split⟩]
    exact if_pos small

theorem decode_written {value : Nat} {digits : List UInt8} (written : Written value digits)
    (rest : List UInt8) : decode (digits ++ rest) = .ok (value, rest) :=
  decode_eq_ok_iff.mpr ⟨digits, written, rfl⟩

theorem decode_encode {value : Nat} (small : value < bound) (rest : List UInt8) :
    decode (encode value ++ rest) = .ok (value, rest) :=
  decode_written (written_encode small) rest

end Varint

namespace Key

/-- The tags that a key can hold. -/
def ValidTag (tag : Nat) : Prop :=
  0 < tag ∧ tag < 0x20000000

instance : DecidablePred ValidTag := fun tag =>
  inferInstanceAs (Decidable (0 < tag ∧ tag < 0x20000000))

@[simp] theorem length_encode (key : Key) : key.encode.length = key.encodedLength :=
  Varint.length_encode key.number

theorem encodedLength_pos (key : Key) : 0 < key.encodedLength :=
  Varint.encodedLength_pos key.number

theorem expect_eq_ok_iff {key : Key} {expected : WireType} :
    key.expect expected = .ok () ↔ key.wireType = expected := by
  rw [expect]
  split <;> simp [*]

theorem code_lt (wireType : WireType) : wireType.code < 8 := by
  cases wireType <;> decide

/-- These are bytes from which a reader takes the key. -/
structure Written (key : Key) (bytes : List UInt8) : Prop where
  valid : ValidTag key.tag
  number : Varint.Written key.number bytes

theorem Written.ne_nil {key : Key} {bytes : List UInt8} (written : Written key bytes) :
    bytes ≠ [] :=
  written.number.spells.ne_nil

theorem number_lt {key : Key} (valid : ValidTag key.tag) : key.number < 0x100000000 := by
  have small : key.tag < 0x20000000 := valid.2
  have code := code_lt key.wireType
  rw [number]
  omega

theorem number_mod (key : Key) : key.number % 8 = key.wireType.code := by
  have code := code_lt key.wireType
  rw [number]
  omega

theorem number_div (key : Key) : key.number / 8 = key.tag := by
  have code := code_lt key.wireType
  rw [number]
  omega

/-- A number is that of the key made of its parts. -/
theorem number_mk {value : Nat} {wireType : WireType} (layout : wireType.code = value % 8) :
    number ⟨value / 8, wireType⟩ = value := by
  simp only [number, layout]
  omega

theorem written_encode {key : Key} (valid : ValidTag key.tag) : Written key key.encode where
  valid := valid
  number := Varint.written_encode (Nat.lt_trans (number_lt valid) (by decide))

/-- A key is read from its number, if its tag fits, and from nothing else. -/
theorem decode_eq_ok_iff {key : Key} {input rest : List UInt8} :
    decode input = .ok (key, rest) ↔ ∃ bytes, Written key bytes ∧ input = bytes ++ rest := by
  rw [decode, bind_eq_ok_iff]
  constructor
  · rintro ⟨⟨value, behind⟩, number, read⟩
    dsimp only at read
    split at read
    next => cases read
    next fits =>
      split at read
      next => cases read
      next layout known =>
        split at read
        next => cases read
        next positive =>
          cases read
          obtain ⟨bytes, written, split⟩ := Varint.decode_eq_ok_iff.mp number
          have whole := number_mk (WireType.code_of_ofCode? known)
          have small : value / 8 < 0x20000000 := by omega
          exact ⟨bytes, ⟨⟨Nat.pos_of_ne_zero positive, small⟩, whole.symm ▸ written⟩, split⟩
  · rintro ⟨bytes, ⟨valid, number⟩, rfl⟩
    refine ⟨(key.number, rest), Varint.decode_written number rest, ?_⟩
    simp only [if_neg (Nat.not_le_of_lt (number_lt valid)), number_mod, number_div,
      WireType.ofCode?_code, if_neg (Nat.ne_of_gt valid.1)]

theorem decode_written {key : Key} {bytes : List UInt8} (written : Written key bytes)
    (rest : List UInt8) : decode (bytes ++ rest) = .ok (key, rest) :=
  decode_eq_ok_iff.mpr ⟨bytes, written, rfl⟩

theorem Written.of_decode {key : Key} {bytes : List UInt8}
    (decoded : decode bytes = .ok (key, [])) : Written key bytes := by
  obtain ⟨_, written, rfl⟩ := decode_eq_ok_iff.mp decoded
  rwa [List.append_nil]

theorem decode_encode {key : Key} (valid : ValidTag key.tag) (rest : List UInt8) :
    decode (key.encode ++ rest) = .ok (key, rest) :=
  decode_written (written_encode valid) rest

end Key

end RadioSnapshot.Wire
