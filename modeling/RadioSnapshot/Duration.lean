/-!
# Spans of time
-/

namespace RadioSnapshot

/-- A span of time, in nanoseconds. -/
structure Duration where
  nanoseconds : Nat
  deriving BEq, DecidableEq, Repr

namespace Duration

def zero : Duration := ⟨0⟩

def ofSeconds (count : Nat) : Duration := ⟨count * 1000000000⟩

def ofMilliseconds (count : Nat) : Duration := ⟨count * 1000000⟩

/-- Whole seconds. -/
def seconds (duration : Duration) : Nat :=
  duration.nanoseconds / 1000000000

/-- What is left beside the whole seconds. -/
def subsecond (duration : Duration) : Nat :=
  duration.nanoseconds % 1000000000

/-- Whole milliseconds. -/
def milliseconds (duration : Duration) : Nat :=
  duration.nanoseconds / 1000000

/-- The longer of two spans. -/
def longer (left right : Duration) : Duration :=
  ⟨max left.nanoseconds right.nanoseconds⟩

end Duration

end RadioSnapshot
