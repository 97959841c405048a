import RadioSnapshot.Proofs.Text.Lines
import RadioSnapshot.Text.Hex

/-!
# Hexadecimal text is read back

The digits of bytes tell the bytes apart.
-/

namespace RadioSnapshot.Hex

theorem digitValue?_digit : ∀ value < 16, digitValue? (digit value) = some value := by
  decide

theorem bytes?_digits (bytes : List UInt8) : bytes? (bytes.flatMap digits) = some bytes := by
  induction bytes with
  | nil => rfl
  | cons byte bytes ih =>
      have small := byte.toNat_lt
      have high := digitValue?_digit (byte.toNat / 16) (by omega)
      have low := digitValue?_digit (byte.toNat % 16) (Nat.mod_lt _ (by decide))
      simp only [List.flatMap_cons, digits, List.cons_append, List.nil_append, bytes?, high, low,
        ih, Option.bind_eq_bind, Option.bind_some, Nat.div_add_mod, UInt8.ofNat_toNat]
      rfl

/-- Bytes are read back from their digits. -/
theorem decode?_encode (bytes : List UInt8) : decode? (encode bytes) = some bytes := by
  rw [decode?, encode, String.toList_ofList, bytes?_digits]

/-- Different bytes have different digits. -/
theorem encode_injective {first second : List UInt8} (same : encode first = encode second) :
    first = second := by
  have read := decode?_encode first
  rw [same, decode?_encode] at read
  exact (Option.some.inj read).symm

theorem inline_digits (byte : UInt8) : ∀ char ∈ digits byte, Inline char := by
  have each : ∀ value < 16, Inline (digit value) := by decide
  have small := byte.toNat_lt
  intro char member
  simp only [digits, List.mem_cons, List.not_mem_nil, or_false] at member
  rcases member with rfl | rfl <;> exact each _ (by omega)

end RadioSnapshot.Hex
