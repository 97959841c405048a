import RadioSnapshot.CommandLine.Exit
import RadioSnapshot.Duration
import RadioSnapshot.Text.Blank

/-!
# Durations on the command line

A duration is a number with a unit: `ms` for milliseconds, `s` or nothing for
seconds. Blanks around it do not matter.
-/

namespace RadioSnapshot

/-- The number that decimal digits stand for. There has to be at least one, and
the number has to fit in 64 bits. -/
def wordOfDigits? (digits : List Char) : Option Nat :=
  if digits.isEmpty || !digits.all Char.isDigit then none
  else
    let value := digits.foldl (fun value digit => 10 * value + (digit.toNat - 48)) 0
    if value < 0x10000000000000000 then some value else none

/-- Digits, possibly after a plus sign. -/
def wordOfText? : List Char → Option Nat
  | '+' :: digits => wordOfDigits? digits
  | digits => wordOfDigits? digits

/-- The text without an ending, if it ends so. -/
def dropEnding? (ending text : List Char) : Option (List Char) :=
  if ending.isSuffixOf text then some (text.take (text.length - ending.length)) else none

namespace Duration

/-- The duration that a trimmed text stands for. -/
def ofChars? (text : List Char) : Option Duration :=
  match dropEnding? ['m', 's'] text with
  | some number => (wordOfText? number).map ofMilliseconds
  | none =>
      match dropEnding? ['s'] text with
      | some number => (wordOfText? number).map ofSeconds
      | none => (wordOfText? text).map ofSeconds

/-- Read the value of an option. -/
def parse (option input : String) : Except ExitError Duration :=
  let text := trim input
  if text.isEmpty then .error ⟨.invalidOptionValue, option ++ " must not be empty"⟩
  else
    match ofChars? text.toList with
    | some duration => .ok duration
    | none => .error ⟨.invalidOptionValue, "invalid " ++ option ++ " value: " ++ text⟩

end Duration

end RadioSnapshot
