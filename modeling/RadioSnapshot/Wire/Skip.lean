import RadioSnapshot.Wire.Key

/-!
# Values of undeclared fields

A reader passes over the value of a field that it does not know. Only the layout
matters for that. A group is a run of fields up to an end key with the group's
own tag, and groups may nest, though not without limit.
-/

namespace RadioSnapshot.Wire

/-- How deep messages and groups may nest. -/
def maxDepth : Nat := 100

/-- Split off the first `length` bytes. -/
def takeExactly (length : Nat) (input : List UInt8) :
    Except Fault (List UInt8 × List UInt8) :=
  if input.length < length then .error .underflow
  else .ok (input.take length, input.drop length)

/-- Pass over `length` bytes. -/
def dropExactly (length : Nat) (input : List UInt8) : Except Fault (List UInt8) :=
  if input.length < length then .error .underflow else .ok (input.drop length)

/-- Pass over the fields of a group and its end key, given how to pass over one
value. Every field takes at least the byte of its key, so `budget`, the number
of bytes at hand, bounds the number of fields. -/
def skipGroup (skipValue : Key → List UInt8 → Except Fault (List UInt8)) (tag : Nat) :
    (budget : Nat) → List UInt8 → Except Fault (List UInt8)
  | 0, _ => .error .invalidVarint
  | budget + 1, input => do
      let (key, rest) ← Key.decode input
      if key.wireType = .endGroup then
        if key.tag = tag then .ok rest else .error .unexpectedGroupEnd
      else skipGroup skipValue tag budget (← skipValue key rest)

/-- Pass over the value after a key, with `depth` levels of nesting left. -/
def skipValue : (depth : Nat) → Key → List UInt8 → Except Fault (List UInt8)
  | 0, _, _ => .error .recursionLimit
  | depth + 1, key, input =>
      match key.wireType with
      | .varint => do
          let (_, rest) ← Varint.decode input
          .ok rest
      | .thirtyTwoBit => dropExactly 4 input
      | .sixtyFourBit => dropExactly 8 input
      | .lengthDelimited => do
          let (length, rest) ← Varint.decode input
          dropExactly length rest
      | .startGroup => skipGroup (skipValue depth) key.tag input.length input
      | .endGroup => .error .unexpectedGroupEnd

end RadioSnapshot.Wire
