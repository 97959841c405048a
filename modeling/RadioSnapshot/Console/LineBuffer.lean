import RadioSnapshot.Console.LineSink

/-!
# Lines of the radio's console

Bytes that belong to no frame are text that the radio prints for its users. They
are gathered into lines: printable ASCII is kept, a line feed ends the line, and
all other bytes are dropped. Empty lines are not lines, and a line that grows too
long is cut.
-/

namespace RadioSnapshot

/-- The length at which a line is cut. -/
def maxLineLength : Nat := 512

/-- The unfinished line. -/
structure LineBuffer where
  pending : String
  deriving BEq, DecidableEq, Repr

namespace LineBuffer

def empty : LineBuffer := ⟨""⟩

def isPrintable (byte : UInt8) : Bool :=
  32 ≤ byte.toNat && byte.toNat ≤ 126

/-- Add one byte; a line that it completes is given out. -/
def push (byte : UInt8) (buffer : LineBuffer) : Option String × LineBuffer :=
  if byte = 10 then
    if buffer.pending.isEmpty then (none, buffer) else (some buffer.pending, empty)
  else if isPrintable byte then
    let line := buffer.pending.push (Char.ofNat byte.toNat)
    if maxLineLength ≤ line.length then (some line, empty) else (none, ⟨line⟩)
  else (none, buffer)

/-- Add bytes and offer each line that they complete. The result begins with the
number of lines refused. -/
def pushAll {τ : Type} (sink : LineSink τ) :
    List UInt8 → LineBuffer → τ → Nat × LineBuffer × τ
  | [], buffer, console => (0, buffer, console)
  | byte :: rest, buffer, console =>
      match buffer.push byte with
      | (none, buffer) => pushAll sink rest buffer console
      | (some line, buffer) =>
          let (taken, console) := sink.offer line console
          let (refused, result) := pushAll sink rest buffer console
          (if taken then refused else refused + 1, result)

end LineBuffer

end RadioSnapshot
