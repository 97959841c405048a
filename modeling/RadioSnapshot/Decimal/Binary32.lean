/-!
# Single-precision numbers

The radio sends fractional settings as IEEE 754 single-precision words. A word
is kept as its bits, so two settings are equal exactly when they are the same on
the wire; `magnitude` gives the number that a finite word stands for.
-/

namespace RadioSnapshot

/-- A single-precision word: a sign bit, eight bits of exponent and 23 of fraction. -/
structure Binary32 where
  bits : UInt32
  deriving BEq, DecidableEq, Repr

namespace Binary32

def isNegative (word : Binary32) : Bool :=
  0x80000000 ≤ word.bits.toNat

def exponentField (word : Binary32) : Nat :=
  word.bits.toNat / 0x800000 % 0x100

def fractionField (word : Binary32) : Nat :=
  word.bits.toNat % 0x800000

/-- The largest exponent field marks infinities and words that are no number. -/
def isFinite (word : Binary32) : Bool :=
  word.exponentField != 255

/-- Both zeros, the positive and the negative one. -/
def isZero (word : Binary32) : Bool :=
  word.exponentField == 0 && word.fractionField == 0

/-- The integer part of the magnitude: a finite word stands for
`significand * 2 ^ power`, up to its sign. -/
def significand (word : Binary32) : Nat :=
  if word.exponentField = 0 then word.fractionField
  else 0x800000 + word.fractionField

/-- The power of two that scales the significand. -/
def power (word : Binary32) : Int :=
  (max word.exponentField 1 : Nat) - 150

/-- Whether the next smaller magnitude is only half as far away as the next
larger one. It is so at powers of two, save the smallest. -/
def isBinadeStart (word : Binary32) : Bool :=
  word.fractionField == 0 && 1 < word.exponentField

end Binary32

end RadioSnapshot
