import Mathlib.Data.List.Basic
import RadioSnapshot.Console.LineBuffer

/-!
# Lines that a console is offered

Which lines a run of bytes completes does not depend on who is offered them.
`LineBuffer.run` gives the lines alone and `LineSink.offerAll` offers lines that
are already there; offering lines while they are gathered is the one after the
other.
-/

namespace RadioSnapshot

variable {τ : Type}

namespace LineSink

/-- Offer lines one after the other. The result begins with the number taken. -/
def offerAll (sink : LineSink τ) : List String → τ → Nat × τ
  | [], console => (0, console)
  | line :: rest, console =>
      let (taken, console) := sink.offer line console
      let (others, console) := sink.offerAll rest console
      (if taken then others + 1 else others, console)

theorem offerAll_append (sink : LineSink τ) (first second : List String) (console : τ) :
    sink.offerAll (first ++ second) console =
      let before := sink.offerAll first console
      let after := sink.offerAll second before.2
      (before.1 + after.1, after.2) := by
  induction first generalizing console with
  | nil => simp [offerAll]
  | cons line first ih =>
      simp only [List.cons_append, offerAll, ih]
      split
      · simp only [Prod.mk.injEq, and_true]
        omega
      · rfl

theorem offerAll_collect (lines console : List String) :
    (collect.offerAll lines console).2 = console ++ lines := by
  induction lines generalizing console with
  | nil => exact (List.append_nil console).symm
  | cons line lines ih =>
      rw [List.append_cons]
      exact ih (console ++ [line])

/-- A sink is offered these lines, and each of them is either taken or counted as
refused. -/
structure Offers (sink : LineSink τ) (lines : List String) (refused : Nat) (console : τ)
    (refusedLater : Nat) (later : τ) : Prop where
  offered : later = (sink.offerAll lines console).2
  accounted : refusedLater + (sink.offerAll lines console).1 = refused + lines.length

theorem Offers.nothing (sink : LineSink τ) (refused : Nat) (console : τ) :
    Offers sink [] refused console refused console :=
  ⟨rfl, rfl⟩

theorem Offers.append {sink : LineSink τ} {first second : List String}
    {start middle finish : Nat} {console between later : τ}
    (before : Offers sink first start console middle between)
    (after : Offers sink second middle between finish later) :
    Offers sink (first ++ second) start console finish later where
  offered := by
    rw [offerAll_append, after.offered, before.offered]
  accounted := by
    have early := before.accounted
    have late := after.accounted
    rw [before.offered] at late
    simp only [offerAll_append, List.length_append]
    omega

end LineSink

namespace LineBuffer

/-- The lines that a run of bytes completes. -/
def run : List UInt8 → LineBuffer → List String × LineBuffer
  | [], buffer => ([], buffer)
  | byte :: rest, buffer =>
      let (line, buffer) := buffer.push byte
      let (lines, buffer) := run rest buffer
      (line.toList ++ lines, buffer)

theorem run_append (first second : List UInt8) (buffer : LineBuffer) :
    run (first ++ second) buffer =
      let before := run first buffer
      let after := run second before.2
      (before.1 ++ after.1, after.2) := by
  induction first generalizing buffer with
  | nil => simp [run]
  | cons byte first ih => simp [run, ih]

/-- Bytes are gathered into the same lines for every sink. -/
theorem pushAll_buffer (sink : LineSink τ) (bytes : List UInt8) (buffer : LineBuffer)
    (console : τ) : (pushAll sink bytes buffer console).2.1 = (run bytes buffer).2 := by
  induction bytes generalizing buffer console with
  | nil => rfl
  | cons byte bytes ih =>
      simp only [pushAll, run]
      rcases buffer.push byte with ⟨_ | line, next⟩
      · exact ih next console
      · exact ih next _

/-- The sink is offered the completed lines in order. -/
theorem pushAll_console (sink : LineSink τ) (bytes : List UInt8) (buffer : LineBuffer)
    (console : τ) :
    (pushAll sink bytes buffer console).2.2 =
      (sink.offerAll (run bytes buffer).1 console).2 := by
  induction bytes generalizing buffer console with
  | nil => rfl
  | cons byte bytes ih =>
      simp only [pushAll, run]
      rcases buffer.push byte with ⟨_ | line, next⟩
      · exact ih next console
      · exact ih next _

/-- Every completed line is taken or counted as refused. -/
theorem pushAll_refused (sink : LineSink τ) (bytes : List UInt8) (buffer : LineBuffer)
    (console : τ) :
    (pushAll sink bytes buffer console).1 + (sink.offerAll (run bytes buffer).1 console).1 =
      (run bytes buffer).1.length := by
  induction bytes generalizing buffer console with
  | nil => rfl
  | cons byte bytes ih =>
      simp only [pushAll, run]
      rcases buffer.push byte with ⟨_ | line, next⟩
      · exact ih next console
      · rcases offered : sink.offer line console with ⟨taken, after⟩
        have others := ih next after
        simp only [offered, Option.toList_some, List.singleton_append, LineSink.offerAll,
          List.length_cons]
        cases taken <;> simp only [Bool.false_eq_true, if_true, if_false] <;> omega

theorem pushAll_offers (sink : LineSink τ) (bytes : List UInt8) (refused : Nat)
    (buffer : LineBuffer) (console : τ) :
    sink.Offers (run bytes buffer).1 refused console
      (refused + (pushAll sink bytes buffer console).1)
      (pushAll sink bytes buffer console).2.2 where
  offered := pushAll_console sink bytes buffer console
  accounted := by rw [Nat.add_assoc, pushAll_refused]

end LineBuffer

end RadioSnapshot
