import RadioSnapshot.Wire.Error

/-!
# Variable-length numbers

A number is written in base 128, least significant digit first; every byte but
the last has its top bit set. Readers accept padded forms, up to ten digits, as
long as the number fits in 64 bits.
-/

namespace RadioSnapshot.Wire.Varint

/-- The shortest form of a number. -/
def encode (value : Nat) : List UInt8 :=
  if value < 128 then [UInt8.ofNat value]
  else UInt8.ofNat (value % 128 + 128) :: encode (value / 128)

/-- The length of the shortest form. -/
def encodedLength (value : Nat) : Nat :=
  if value < 128 then 1 else 1 + encodedLength (value / 128)

/-- The number of digits that a reader accepts. -/
def maxDigits : Nat := 10

/-- Read a number of at most `count` digits. -/
def digits? : (count : Nat) → List UInt8 → Option (Nat × List UInt8)
  | 0, _ => none
  | _ + 1, [] => none
  | count + 1, byte :: rest =>
      if byte.toNat < 128 then some (byte.toNat, rest)
      else (digits? count rest).map fun (high, rest) =>
        (byte.toNat - 128 + 128 * high, rest)

/-- Read a 64-bit number. -/
def decode (input : List UInt8) : Except Fault (Nat × List UInt8) :=
  match digits? maxDigits input with
  | some (value, rest) =>
      if value < 0x10000000000000000 then .ok (value, rest) else .error .invalidVarint
  | none => .error .invalidVarint

end RadioSnapshot.Wire.Varint
