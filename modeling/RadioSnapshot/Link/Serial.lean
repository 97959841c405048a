import RadioSnapshot.Duration

/-!
# Serial lines
-/

namespace RadioSnapshot

/-- How a serial line is set up; frames of bits are always 8N1, without flow
control. -/
structure SerialSettings where
  baudRate : Nat
  /-- How long a read waits. Short, so that whoever reads can be stopped. -/
  readTimeout : Duration
  deriving BEq, DecidableEq, Repr

def SerialSettings.standard : SerialSettings :=
  ⟨115200, .ofMilliseconds 100⟩

end RadioSnapshot
