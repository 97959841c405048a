/-!
# Sinks for console lines

Lines of the radio's console are offered to a sink one by one. A sink takes a
line at once or refuses it; nothing ever waits for one.
-/

namespace RadioSnapshot

/-- A sink with states `τ`; `true` means that the line was taken. -/
structure LineSink (τ : Type) where
  offer : String → τ → Bool × τ

namespace LineSink

/-- Take every line, up to a limit if there is one. -/
def keep (limit : Option Nat) : LineSink (List String) where
  offer line lines :=
    match limit with
    | none => (true, lines ++ [line])
    | some limit =>
        if lines.length < limit then (true, lines ++ [line]) else (false, lines)

def collect : LineSink (List String) := keep none

def discard : LineSink (List String) := keep (some 0)

end LineSink

/-- A sink's state together with the number of lines that it took. -/
structure Counted (τ : Type) where
  console : τ
  taken : Nat

/-- Count the lines that a sink takes. -/
def LineSink.counted {τ : Type} (sink : LineSink τ) : LineSink (Counted τ) where
  offer line state :=
    let (taken, console) := sink.offer line state.console
    (taken, ⟨console, if taken then state.taken + 1 else state.taken⟩)

/-- Offer lines to a sink past the count. -/
def LineSink.uncounted {τ : Type} (sink : LineSink τ) : LineSink (Counted τ) where
  offer line state :=
    let (taken, console) := sink.offer line state.console
    (taken, { state with console })

/-- A bounded queue of lines between a reader and whoever shows them. -/
structure LineQueue where
  capacity : Nat
  lines : List String
  isOpen : Bool
  deriving BEq, DecidableEq, Repr

namespace LineQueue

/-- A queue has room for at least one line. -/
def empty (capacity : Nat) : LineQueue :=
  ⟨max capacity 1, [], true⟩

/-- A line is refused when the queue is full or nobody listens any more. -/
def offer (line : String) (queue : LineQueue) : Bool × LineQueue :=
  if queue.isOpen ∧ queue.lines.length < queue.capacity then
    (true, { queue with lines := queue.lines ++ [line] })
  else (false, queue)

/-- Take up to `count` lines out. -/
def receive (count : Nat) (queue : LineQueue) : List String × LineQueue :=
  (queue.lines.take count, { queue with lines := queue.lines.drop count })

/-- Stop listening; lines not taken out are lost. -/
def close (queue : LineQueue) : LineQueue :=
  { queue with lines := [], isOpen := false }

end LineQueue

def LineSink.queue : LineSink LineQueue where
  offer := LineQueue.offer

end RadioSnapshot
