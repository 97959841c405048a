import RadioSnapshot.Decimal.Binary32

/-!
# Shortest decimal text of a single-precision number

A decimal reads back as a given word when it lies in the interval of reals that
round to that word. Among those decimals `shortest` picks one on the coarsest
grid of powers of ten that meets the interval, and on that grid the one nearest
to the number itself. `Binary32.text` then lays the digits out.
-/

namespace RadioSnapshot

/-- The number `digits * 10 ^ exponent`. -/
structure Decimal where
  digits : Nat
  exponent : Int
  deriving DecidableEq, Repr

namespace Decimal

/-- The reals that round to `significand * 2 ^ power`. All three numbers count
quarters of the last binary place, and the ends belong to the interval exactly
when `closed` holds. -/
structure Interval where
  low : Nat
  middle : Nat
  high : Nat
  closed : Bool
  power : Int

/-- The interval of a positive finite word. The neighbour below is half as far
away where a binade starts; ends go to the even significand. -/
def Interval.ofWord (word : Binary32) : Interval where
  low := 4 * word.significand - (if word.isBinadeStart then 1 else 2)
  middle := 4 * word.significand
  high := 4 * word.significand + 2
  closed := word.significand % 2 == 0
  power := word.power - 2

namespace Interval

/-- What a unit of the interval's numbers weighs when a step of the grid of
multiples of `10 ^ exponent` weighs `step`. -/
def unit (interval : Interval) (exponent : Int) : Nat :=
  Nat.pow 2 interval.power.toNat * Nat.pow 10 (-exponent).toNat

def step (interval : Interval) (exponent : Int) : Nat :=
  Nat.pow 2 (-interval.power).toNat * Nat.pow 10 exponent.toNat

/-- Whether `digits * 10 ^ exponent` lies in the interval. -/
def contains (interval : Interval) (exponent : Int) (digits : Nat) : Bool :=
  let unit := interval.unit exponent
  let point := digits * interval.step exponent
  if interval.closed then
    interval.low * unit ≤ point && point ≤ interval.high * unit
  else
    interval.low * unit < point && point < interval.high * unit

/-- The point of the grid `10 ^ exponent` that lies in the interval nearest to
its middle. Of two points equally near the even one is taken. -/
def nearest? (interval : Interval) (exponent : Int) : Option Nat :=
  let middle := interval.middle * interval.unit exponent
  let step := interval.step exponent
  let below := middle / step
  let above := below + 1
  match interval.contains exponent below, interval.contains exponent above with
  | false, false => none
  | true, false => some below
  | false, true => some above
  | true, true =>
      let overshoot := above * step - middle
      let undershoot := middle - below * step
      if undershoot < overshoot then some below
      else if overshoot < undershoot then some above
      else some (if below % 2 = 0 then below else above)

/-- The power of ten of the leading digit of the middle, given that the middle
is at least `10 ^ (-45)`. -/
def leadingExponent (interval : Interval) : Int :=
  let scaled := interval.middle * interval.unit (-45) / interval.step (-45)
  (Nat.toDigits 10 scaled).length - 46

end Interval

/-- A binary fraction is itself a finite decimal. -/
def exact (word : Binary32) : Decimal :=
  if 0 ≤ word.power then ⟨word.significand * Nat.pow 2 word.power.toNat, 0⟩
  else ⟨word.significand * Nat.pow 5 (-word.power).toNat, word.power⟩

/-- The shortest decimal that reads back as a positive finite word. Ten grids
are enough: nine digits tell all single-precision numbers apart. -/
def shortest (word : Binary32) : Decimal :=
  let interval := Interval.ofWord word
  let leading := interval.leadingExponent
  let found := (List.range 10).findSome? fun (finer : Nat) =>
    let exponent := leading + 1 - (finer : Int)
    (interval.nearest? exponent).map fun digits => ⟨digits, exponent⟩
  found.getD (exact word)

/-- Numbers from `10 ^ smallestPlain` up to below `10 ^ (largestPlain + 1)` are
written in plain notation, all others with an exponent. -/
def smallestPlain : Int := -6

def largestPlain : Int := 12

/-- Plain notation always shows a digit on both sides of the point. -/
def plainText (digits : List Char) (leading : Int) : List Char :=
  if leading < 0 then
    ['0', '.'] ++ List.replicate (-leading - 1).toNat '0' ++ digits
  else
    let whole := leading.toNat + 1
    let fraction := digits.drop whole
    digits.take whole ++ List.replicate (whole - digits.length) '0' ++
      '.' :: (if fraction.isEmpty then ['0'] else fraction)

/-- Scientific notation drops the point after a lone digit and signs the
exponent. -/
def scientificText (digits : List Char) (leading : Int) : List Char :=
  let fraction := digits.drop 1
  digits.take 1 ++ (if fraction.isEmpty then [] else '.' :: fraction) ++
    'e' :: (if leading < 0 then '-' else '+') :: Nat.toDigits 10 leading.natAbs

/-- The text of a positive decimal. -/
def text (decimal : Decimal) : List Char :=
  let digits := Nat.toDigits 10 decimal.digits
  let leading := decimal.exponent + digits.length - 1
  if smallestPlain ≤ leading ∧ leading ≤ largestPlain then plainText digits leading
  else scientificText digits leading

end Decimal

/-- The shortest text that reads back as a finite word. -/
def Binary32.text (word : Binary32) : List Char :=
  let magnitude := if word.isZero then ['0', '.', '0'] else (Decimal.shortest word).text
  if word.isNegative then '-' :: magnitude else magnitude

end RadioSnapshot
