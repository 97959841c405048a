import RadioSnapshot.Proofs.Wire.Key
import RadioSnapshot.Schema.Decode
import RadioSnapshot.Schema.Encode

/-!
# Scalars are read as they were written

Every kind of scalar is read back from its encoding, whatever follows it, as long as
its length can be written. A value that is left out of its message stands for the blank
one; the negative zero is the only value for which that makes a difference.
-/

namespace RadioSnapshot

namespace Binary32

def negativeZero : Binary32 := ⟨0x80000000⟩

theorem isZero_iff (word : Binary32) :
    word.isZero = true ↔ word = ⟨0⟩ ∨ word = negativeZero := by
  obtain ⟨bits⟩ := word
  have bound := bits.toNat_lt
  simp only [isZero, exponentField, fractionField, negativeZero, Bool.and_eq_true,
    beq_iff_eq, mk.injEq, ← UInt32.toNat_inj, UInt32.reduceToNat, UInt32.toNat_zero]
  omega

end Binary32

namespace Schema

open Wire

namespace ScalarType

theorem decodeBytes_encodeBytes {content : List UInt8} (small : content.length < Varint.bound)
    (rest : List UInt8) : decodeBytes (encodeBytes content ++ rest) = .ok (content, rest) := by
  have enough : ¬ (content ++ rest).length < content.length := by
    rw [List.length_append]
    omega
  rw [decodeBytes, encodeBytes, List.append_assoc, Varint.decode_encode small]
  simp only [bind, Except.bind, takeExactly, if_neg enough, List.take_left, List.drop_left]

theorem decodeWord_encodeWord (word : UInt32) (rest : List UInt8) :
    decodeWord (encodeWord word ++ rest) = .ok (word, rest) := by
  have bound := word.toNat_lt
  simp only [encodeWord, List.cons_append, List.nil_append, decodeWord, UInt8.toNat_ofNat',
    Except.ok.injEq, Prod.mk.injEq, and_true]
  apply UInt32.toNat_inj.mp
  rw [UInt32.toNat_ofNat']
  omega

theorem ofUtf8?_utf8 (text : String) : ofUtf8? (utf8 text) = some text := by
  simp only [ofUtf8?, utf8, Array.toArray_toList, String.toUTF8_eq_toByteArray,
    String.fromUTF8?]
  rw [dif_pos text.isValidUTF8]
  rfl

theorem length_utf8 (text : String) : (utf8 text).length = text.utf8ByteSize := by
  rfl

theorem ofNat_signExtend (value : Int32) : Int32.ofNat (signExtend value) = value := by
  apply Int32.toBitVec_inj.mp
  change BitVec.ofNat 32 (value.toBitVec.signExtend 64).toNat = value.toBitVec
  rw [BitVec.ofNat_toNat]
  apply BitVec.eq_of_getLsbD_eq
  intro index small
  have wide : index < 64 := by omega
  simp [BitVec.getElem_signExtend, small, wide]

theorem signExtend_lt (value : Int32) : signExtend value < Varint.bound :=
  value.toInt64.toUInt64.toNat_lt

@[simp] theorem length_encode (type : ScalarType) (value : type.Value) :
    (type.encode value).length = type.encodedLength value := by
  cases type with
  | uint32 | int32 => exact Varint.length_encode _
  | bool =>
      have digit : value.toNat < 128 := Nat.lt_trans value.toNat_lt (by decide)
      rw [encode, Varint.length_encode, Varint.encodedLength, if_pos digit]
      rfl
  | fixed32 | float => rfl
  | string => simp only [encode, encodedLength, encodeBytes, List.length_append,
      Varint.length_encode, length_utf8]
  | bytes => simp only [encode, encodedLength, encodeBytes, List.length_append,
      Varint.length_encode]

/-- A scalar is read as it was written, up to what follows it. -/
theorem decode_encode (type : ScalarType) (value : type.Value)
    (small : (type.encode value).length < Varint.bound) (rest : List UInt8) :
    type.decode (type.encode value ++ rest) = .ok (value, rest) := by
  cases type with
  | uint32 =>
      have bounded : value.toNat < Varint.bound :=
        Nat.lt_trans value.toNat_lt (by decide)
      simp only [decode, encode, Varint.decode_encode bounded, bind, Except.bind,
        UInt32.ofNat_toNat]
  | int32 =>
      simp only [decode, encode, Varint.decode_encode (signExtend_lt value), bind, Except.bind,
        ofNat_signExtend]
  | bool =>
      have bounded : value.toNat < Varint.bound := Nat.lt_trans value.toNat_lt (by decide)
      simp only [decode, encode, Varint.decode_encode bounded, bind, Except.bind]
      cases value <;> rfl
  | fixed32 => exact decodeWord_encodeWord value rest
  | float =>
      simp only [decode, encode, decodeWord_encodeWord, bind, Except.bind]
  | string =>
      have bounded : (utf8 value).length < Varint.bound := by
        simp only [encode, encodeBytes, List.length_append] at small
        omega
      simp only [decode, encode, decodeBytes_encodeBytes bounded, bind, Except.bind,
        ofUtf8?_utf8]
  | bytes =>
      have bounded : value.length < Varint.bound := by
        simp only [encode, encodeBytes, List.length_append] at small
        omega
      exact decodeBytes_encodeBytes bounded rest

/-- Read under a key of its own, too. -/
theorem readValue_encode (type : ScalarType) (tag : Nat) (value : type.Value)
    (small : (type.encode value).length < Varint.bound) (rest : List UInt8) :
    type.readValue ⟨tag, type.wireType⟩ (type.encode value ++ rest) = .ok (value, rest) := by
  rw [readValue, Key.expect, if_pos rfl]
  simp only [decode_encode type value small, Parsed.ofExcept]

/-- The value with the positive zero in place of the negative one. -/
def withoutNegativeZero : (type : ScalarType) → type.Value → type.Value
  | .float, value => if value = Binary32.negativeZero then ⟨0⟩ else value
  | .uint32, value => value
  | .int32, value => value
  | .bool, value => value
  | .fixed32, value => value
  | .string, value => value
  | .bytes, value => value

theorem eq_blank_of_isBlank {type : ScalarType} {value : type.Value}
    (left : type.isBlank value = true) : type.withoutNegativeZero value = type.blank := by
  cases type with
  | float =>
      rcases (Binary32.isZero_iff value).mp left with rfl | rfl <;> rfl
  | uint32 | int32 | bool | fixed32 | string | bytes =>
      simp only [withoutNegativeZero, blank]
      simpa [isBlank] using left

theorem withoutNegativeZero_of_not_isBlank {type : ScalarType} {value : type.Value}
    (kept : ¬ type.isBlank value = true) : type.withoutNegativeZero value = value := by
  cases type with
  | float =>
      have positive : value ≠ Binary32.negativeZero := fun negative =>
        kept ((Binary32.isZero_iff value).mpr (.inr negative))
      exact if_neg positive
  | uint32 | int32 | bool | fixed32 | string | bytes => rfl

theorem isBlank_withoutNegativeZero (type : ScalarType) (value : type.Value) :
    type.isBlank (type.withoutNegativeZero value) = type.isBlank value := by
  by_cases left : type.isBlank value = true
  · rw [eq_blank_of_isBlank left, left]
    cases type <;> rfl
  · rw [withoutNegativeZero_of_not_isBlank left]

/-- What is read for a value that is left out when it is blank. -/
theorem canonical_eq (type : ScalarType) (value : type.Value) :
    type.canonical value = type.withoutNegativeZero value := by
  by_cases left : type.isBlank value = true
  · rw [canonical, if_pos left, eq_blank_of_isBlank left]
  · rw [canonical, if_neg left, withoutNegativeZero_of_not_isBlank left]

end ScalarType

end Schema

end RadioSnapshot
