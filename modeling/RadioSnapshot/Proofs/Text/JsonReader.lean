import Mathlib.Data.List.Basic
import RadioSnapshot.Text.Json

/-!
# Reading JSON

A strict reader of JSON texts, written from the grammar alone. It allows blanks wherever they
may stand, and refuses unescaped control characters, halves of surrogate pairs, integers that
begin with a superfluous zero, two members of one name and anything behind the value. Integers
are read as numbers; other numbers are kept as they are written, so that nothing is lost to
rounding.

The readers call one another at most once for every character, so that a bound on the calls
which is as large as the text does not stop them.
-/

namespace RadioSnapshot

/-- What a JSON text says. -/
inductive Document where
  | null
  | bool (value : Bool)
  | integer (value : Int)
  /-- A number with a fraction or an exponent, as it is written. -/
  | fractional (literal : List Char)
  | string (text : String)
  | array (elements : List Document)
  | object (members : List (String × Document))

namespace Document

def isSpace (char : Char) : Bool :=
  char == ' ' || char == '\t' || char == '\n' || char == '\r'

/-- What follows the blanks. -/
def skip (chars : List Char) : List Char :=
  chars.dropWhile isSpace

/-! ## Texts -/

/-- The number that a hexadecimal digit of either case stands for. -/
def hexValue? (char : Char) : Option Nat :=
  if char.isDigit then some (char.toNat - 48)
  else if 'a' ≤ char ∧ char ≤ 'f' then some (char.toNat - 87)
  else if 'A' ≤ char ∧ char ≤ 'F' then some (char.toNat - 55)
  else none

/-- The number that four hexadecimal digits stand for. -/
def unit? : List Char → Option (Nat × List Char)
  | first :: second :: third :: fourth :: rest => do
      let first ← hexValue? first
      let second ← hexValue? second
      let third ← hexValue? third
      let fourth ← hexValue? fourth
      some (((first * 16 + second) * 16 + third) * 16 + fourth, rest)
  | _ => none

/-- A character by its number, or by the two halves that stand for it in UTF-16. -/
def codePoint? (chars : List Char) : Option (Char × List Char) := do
  let (unit, rest) ← unit? chars
  if unit < 0xD800 ∨ 0xDFFF < unit then some (Char.ofNat unit, rest)
  else if 0xDC00 ≤ unit then none
  else
    match rest with
    | '\\' :: 'u' :: rest => do
        let (low, rest) ← unit? rest
        if 0xDC00 ≤ low ∧ low ≤ 0xDFFF then
          some (Char.ofNat (0x10000 + (unit - 0xD800) * 0x400 + (low - 0xDC00)), rest)
        else none
    | _ => none

/-- What a letter behind a backslash stands for. -/
def shortEscapes : List (Char × Char) :=
  [('"', '"'), ('\\', '\\'), ('/', '/'), ('b', '\x08'), ('f', '\x0c'), ('n', '\n'), ('r', '\r'),
    ('t', '\t')]

/-- One character between quotes. -/
def character? : List Char → Option (Char × List Char)
  | '\\' :: 'u' :: rest => codePoint? rest
  | '\\' :: letter :: rest => (shortEscapes.lookup letter).map (·, rest)
  | ['\\'] => none
  | char :: rest => if char.toNat < 32 then none else some (char, rest)
  | [] => none

/-- The characters up to the closing quote. -/
def characters? : Nat → List Char → Option (List Char × List Char)
  | 0, _ => none
  | _ + 1, '"' :: rest => some ([], rest)
  | calls + 1, chars => do
      let (char, rest) ← character? chars
      let (others, rest) ← characters? calls rest
      some (char :: others, rest)

/-- A member's name and the colon behind it. -/
def name? (calls : Nat) (chars : List Char) : Option (String × List Char) :=
  match skip chars with
  | '"' :: rest => do
      let (name, rest) ← characters? calls rest
      match skip rest with
      | ':' :: rest => some (.ofList name, rest)
      | _ => none
  | _ => none

/-! ## Numbers -/

/-- One digit or more. -/
def digits? (chars : List Char) : Option (List Char × List Char) :=
  let digits := chars.takeWhile Char.isDigit
  if digits.isEmpty then none else some (digits, chars.dropWhile Char.isDigit)

/-- Digits of which the first is no zero unless it stands alone. -/
def whole? (chars : List Char) : Option (List Char × List Char) := do
  let (digits, rest) ← digits? chars
  if digits.head? = some '0' ∧ digits ≠ ['0'] then none else some (digits, rest)

/-- A point and digits, if there is a point. -/
def fraction? : List Char → Option (List Char × List Char)
  | '.' :: rest => do
      let (digits, rest) ← digits? rest
      some ('.' :: digits, rest)
  | chars => some ([], chars)

/-- Digits that may have a sign. -/
def signed? : List Char → Option (List Char × List Char)
  | [] => none
  | sign :: rest =>
      if sign = '+' ∨ sign = '-' then do
        let (digits, rest) ← digits? rest
        some (sign :: digits, rest)
      else digits? (sign :: rest)

/-- A mark and the exponent, if there is a mark. -/
def exponent? : List Char → Option (List Char × List Char)
  | [] => some ([], [])
  | mark :: rest =>
      if mark = 'e' ∨ mark = 'E' then do
        let (digits, rest) ← signed? rest
        some (mark :: digits, rest)
      else some ([], mark :: rest)

def number? (chars : List Char) : Option (Document × List Char) := do
  let sign := if chars.head? = some '-' then ['-'] else []
  let (whole, rest) ← whole? (chars.drop sign.length)
  let (fraction, rest) ← fraction? rest
  let (exponent, rest) ← exponent? rest
  let magnitude := Nat.ofDigitChars 10 whole 0
  if (fraction ++ exponent).isEmpty then
    some (.integer (if sign.isEmpty then magnitude else -magnitude), rest)
  else some (.fractional (sign ++ whole ++ fraction ++ exponent), rest)

/-! ## Values -/

/-- What follows the word, with the value that it stands for. -/
def word? (word : List Char) (value : Document) (chars : List Char) :
    Option (Document × List Char) :=
  if word.isPrefixOf chars then some (value, chars.drop word.length) else none

mutual

def value? : Nat → List Char → Option (Document × List Char)
  | 0, _ => none
  | calls + 1, chars =>
      match skip chars with
      | '"' :: rest => do
          let (text, rest) ← characters? calls rest
          some (.string (.ofList text), rest)
      | '[' :: rest =>
          match skip rest with
          | ']' :: rest => some (.array [], rest)
          | _ => do
              let (elements, rest) ← elements? calls rest
              some (.array elements, rest)
      | '{' :: rest =>
          match skip rest with
          | '}' :: rest => some (.object [], rest)
          | _ => do
              let (members, rest) ← members? calls rest
              if (members.map Prod.fst).Nodup then some (.object members, rest) else none
      | 'n' :: rest => word? ['u', 'l', 'l'] .null rest
      | 't' :: rest => word? ['r', 'u', 'e'] (.bool true) rest
      | 'f' :: rest => word? ['a', 'l', 's', 'e'] (.bool false) rest
      | chars => number? chars

/-- One value or more, with commas between them, up to the closing bracket. -/
def elements? : Nat → List Char → Option (List Document × List Char)
  | 0, _ => none
  | calls + 1, chars => do
      let (element, rest) ← value? calls chars
      match skip rest with
      | ',' :: rest => do
          let (others, rest) ← elements? calls rest
          some (element :: others, rest)
      | ']' :: rest => some ([element], rest)
      | _ => none

/-- One member or more, with commas between them, up to the closing brace. -/
def members? : Nat → List Char → Option (List (String × Document) × List Char)
  | 0, _ => none
  | calls + 1, chars => do
      let (name, rest) ← name? calls chars
      let (value, rest) ← value? calls rest
      match skip rest with
      | ',' :: rest => do
          let (others, rest) ← members? calls rest
          some ((name, value) :: others, rest)
      | '}' :: rest => some ([(name, value)], rest)
      | _ => none

end

/-- What a text says, if it is JSON. -/
def read? (text : String) : Option Document := do
  let (document, rest) ← value? text.length text.toList
  if (skip rest).isEmpty then some document else none

example : read? " [-2.5e3, \"\\u00e9\\ud83d\\ude00\"] " =
    some (.array [.fractional "-2.5e3".toList, .string "é😀"]) := by
  cbv

end Document

end RadioSnapshot
