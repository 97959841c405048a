import RadioSnapshot.Link.Error

/-!
# Sinks for bytes

A sink takes a whole byte string or fails. `Outlet` is a device underneath one:
it may take only part of what it is given, be interrupted, or fail, and has to be
flushed when all is written.
-/

namespace RadioSnapshot

/-- A sink with states `κ`. -/
structure ByteSink (κ : Type) where
  write : List UInt8 → κ → Except LinkError Unit × κ

/-- What an outlet does when it is written to. -/
inductive WriteEvent where
  | accept (limit : Nat)
  | failure (error : IoError)
  deriving BEq, DecidableEq, Repr

/-- What an outlet does when it is flushed. -/
inductive FlushEvent where
  | done
  | failure (error : IoError)
  deriving BEq, DecidableEq, Repr

/-- A device that takes bytes as its two scripts say. Past the end of a script it
takes everything. -/
structure Outlet where
  writes : List WriteEvent
  flushes : List FlushEvent
  /-- The bytes taken so far. -/
  written : List UInt8
  writeCalls : Nat
  flushCalls : Nat
  deriving BEq, DecidableEq, Repr

namespace Outlet

def ofScripts (writes : List WriteEvent) (flushes : List FlushEvent) : Outlet :=
  ⟨writes, flushes, [], 0, 0⟩

/-- How an attempt to write or flush went: the result, the rest of the script,
the bytes taken and the number of calls. -/
structure Attempt (event : Type) where
  result : Except LinkError Unit
  script : List event
  taken : List UInt8
  calls : Nat

/-- One more call, in front of an attempt, that took these bytes. -/
def Attempt.after {event : Type} (taken : List UInt8) (attempt : Attempt event) :
    Attempt event :=
  { attempt with taken := taken ++ attempt.taken, calls := attempt.calls + 1 }

/-- Offer what is left of the data until all of it is taken. Interrupted calls
are repeated; a call that takes nothing means that the outlet is closed. -/
def writeAll : List WriteEvent → List UInt8 → Attempt WriteEvent
  | script, [] => ⟨.ok (), script, [], 0⟩
  | [], data => ⟨.ok (), [], data, 1⟩
  | .accept 0 :: rest, _ => ⟨.error .closed, rest, [], 1⟩
  | .accept limit :: rest, data =>
      (writeAll rest (data.drop limit)).after (data.take limit)
  | .failure error :: rest, data =>
      if error.kind = .interrupted then (writeAll rest data).after []
      else ⟨.error (.io error), rest, [], 1⟩

/-- Flush until a call is not interrupted. -/
def flushAll : List FlushEvent → Attempt FlushEvent
  | [] => ⟨.ok (), [], [], 1⟩
  | .done :: rest => ⟨.ok (), rest, [], 1⟩
  | .failure error :: rest =>
      if error.kind = .interrupted then (flushAll rest).after []
      else ⟨.error (.io error), rest, [], 1⟩

/-- Write all of the data, then flush. -/
def write (data : List UInt8) (outlet : Outlet) : Except LinkError Unit × Outlet :=
  let writing := writeAll outlet.writes data
  let outlet := { outlet with
    writes := writing.script
    written := outlet.written ++ writing.taken
    writeCalls := outlet.writeCalls + writing.calls }
  match writing.result with
  | .error error => (.error error, outlet)
  | .ok () =>
      let flushing := flushAll outlet.flushes
      (flushing.result, { outlet with
        flushes := flushing.script
        flushCalls := outlet.flushCalls + flushing.calls })

end Outlet

def ByteSink.outlet : ByteSink Outlet where
  write := Outlet.write

/-- A sink that keeps apart what was written at each time, and fails once. -/
structure Recorder where
  sent : List (List UInt8)
  /-- The failing write, counted from zero, and how it fails. -/
  failure : Option (Nat × LinkError)
  deriving BEq, DecidableEq, Repr

/-- Writes are recorded whether they fail or not. -/
def Recorder.write (data : List UInt8) (recorder : Recorder) :
    Except LinkError Unit × Recorder :=
  let next := { recorder with sent := recorder.sent ++ [data] }
  match recorder.failure with
  | none => (.ok (), next)
  | some (index, error) =>
      (if index = recorder.sent.length then .error error else .ok (), next)

def ByteSink.recorder : ByteSink Recorder where
  write := Recorder.write

end RadioSnapshot
