/-!
# Hexadecimal text of bytes

Each byte is written as two lowercase digits, the more significant first, with
no separator between bytes. `decode?` reads exactly that text back.
-/

namespace RadioSnapshot.Hex

/-- The lowercase digit of a number below sixteen. -/
def digit (value : Nat) : Char :=
  if value < 10 then Char.ofNat (48 + value) else Char.ofNat (87 + value)

/-- The two digits of one byte. -/
def digits (byte : UInt8) : List Char :=
  [digit (byte.toNat / 16), digit (byte.toNat % 16)]

/-- The text of a byte string. -/
def encode (bytes : List UInt8) : String :=
  String.ofList (bytes.flatMap digits)

/-- The number that a lowercase digit stands for. -/
def digitValue? (char : Char) : Option Nat :=
  if '0' ≤ char ∧ char ≤ '9' then some (char.toNat - 48)
  else if 'a' ≤ char ∧ char ≤ 'f' then some (char.toNat - 87)
  else none

/-- Pairs of digits as bytes. -/
def bytes? : List Char → Option (List UInt8)
  | [] => some []
  | [_] => none
  | high :: low :: rest => do
      let high ← digitValue? high
      let low ← digitValue? low
      let bytes ← bytes? rest
      return UInt8.ofNat (16 * high + low) :: bytes

/-- The byte string that a text stands for. -/
def decode? (text : String) : Option (List UInt8) :=
  bytes? text.toList

end RadioSnapshot.Hex
