import Mathlib.Data.List.Basic
import RadioSnapshot.Link.Sink

/-!
# Writing call by call

Before some data is written an outlet is called many times: bytes are offered to it until it
has taken all of them, and then it is asked to flush. A write is taken apart here into its
calls, of which there are finitely many.
-/

namespace RadioSnapshot.Outlet

/-- A call on an outlet with its answer: bytes are offered and some of them are taken, or a
flush is asked for. -/
inductive Call where
  | write (offered : List UInt8) (answer : Except IoError Nat)
  | flush (answer : Except IoError Unit)

/-- Offer bytes once. Past the end of its script the outlet takes all of them. -/
def offer (bytes : List UInt8) (outlet : Outlet) : Except IoError Nat × Outlet :=
  let called := { outlet with
    writes := outlet.writes.tail
    writeCalls := outlet.writeCalls + 1 }
  match outlet.writes.head?.getD (.accept bytes.length) with
  | .accept limit =>
      (.ok (min limit bytes.length),
        { called with written := outlet.written ++ bytes.take limit })
  | .failure error => (.error error, called)

/-- Ask for one flush. Past the end of the script it succeeds. -/
def flush (outlet : Outlet) : Except IoError Unit × Outlet :=
  let called := { outlet with
    flushes := outlet.flushes.tail
    flushCalls := outlet.flushCalls + 1 }
  match outlet.flushes.head?.getD .done with
  | .done => (.ok (), called)
  | .failure error => (.error error, called)

/-- An outlet gives these answers to these calls, one after the other, and the last outlet is
what they leave of it. -/
inductive Answers : Outlet → List Call → Outlet → Prop
  | nothing (outlet : Outlet) : Answers outlet [] outlet
  | write {outlet next last : Outlet} {bytes : List UInt8} {answer : Except IoError Nat}
      {calls : List Call} (offered : outlet.offer bytes = (answer, next))
      (rest : Answers next calls last) : Answers outlet (.write bytes answer :: calls) last
  | flush {outlet next last : Outlet} {answer : Except IoError Unit} {calls : List Call}
      (flushed : outlet.flush = (answer, next))
      (rest : Answers next calls last) : Answers outlet (.flush answer :: calls) last

/-- How a write ends once the offers are over: it fails as they did, or flushes. -/
def conclude (writing : Attempt WriteEvent) (outlet : Outlet) :
    Except LinkError Unit × Outlet :=
  let outlet := { outlet with
    writes := writing.script
    written := outlet.written ++ writing.taken
    writeCalls := outlet.writeCalls + writing.calls }
  match writing.result with
  | .error error => (.error error, outlet)
  | .ok () =>
      let flushing := flushAll outlet.flushes
      (flushing.result, { outlet with
        flushes := flushing.script
        flushCalls := outlet.flushCalls + flushing.calls })

theorem write_eq_conclude (data : List UInt8) (outlet : Outlet) :
    outlet.write data = outlet.conclude (writeAll outlet.writes data) := rfl

/-- A call in front of the offers is one that the outlet has had before. -/
theorem conclude_after (bytes : List UInt8) (writing : Attempt WriteEvent) (outlet : Outlet) :
    outlet.conclude (writing.after bytes) =
      conclude writing { outlet with
        written := outlet.written ++ bytes
        writeCalls := outlet.writeCalls + 1 } := by
  -- The call is counted in the attempt on one side and in the outlet on the other.
  have counted : outlet.writeCalls + (writing.calls + 1) =
      outlet.writeCalls + 1 + writing.calls := by
    omega
  simp only [conclude, Attempt.after, counted, List.append_assoc]

/-- A write with bytes left offers them, and goes on with what the outlet left of them. -/
theorem write_of_offer {left : List UInt8} (some : left ≠ []) (outlet : Outlet) :
    outlet.write left =
      match outlet.offer left with
      | (.ok count, next) =>
          if count = 0 then (.error .closed, next) else next.write (left.drop count)
      | (.error error, next) =>
          if error.kind = .interrupted then next.write left else (.error (.io error), next) := by
  obtain ⟨writes, flushes, written, writeCalls, flushCalls⟩ := outlet
  obtain ⟨byte, left, rfl⟩ := List.exists_cons_of_ne_nil some
  cases writes with
  | nil => simp [write, writeAll, offer]
  | cons event rest =>
      cases event with
      | accept limit =>
          cases limit with
          | zero => simp [write, writeAll, offer]
          | succ limit =>
              have positive : min (limit + 1) (byte :: left).length ≠ 0 := by
                simp
              simp only [write_eq_conclude, writeAll, conclude_after, offer, List.head?_cons,
                Option.getD_some, List.tail_cons, if_neg positive, ← List.drop_eq_drop_min]
              rfl
      | failure error =>
          by_cases interrupted : error.kind = .interrupted
          · simp only [write_eq_conclude, writeAll, conclude_after, offer, List.head?_cons,
              Option.getD_some, List.tail_cons, interrupted, if_true, List.append_nil]
            rfl
          · simp [write, writeAll, offer, interrupted]

/-- A write with nothing left asks for a flush, until one is not interrupted. -/
theorem write_of_flush (outlet : Outlet) :
    outlet.write [] =
      match outlet.flush with
      | (.ok (), next) => (.ok (), next)
      | (.error error, next) =>
          if error.kind = .interrupted then next.write [] else (.error (.io error), next) := by
  obtain ⟨writes, flushes, written, writeCalls, flushCalls⟩ := outlet
  cases flushes with
  | nil => simp [write, writeAll, flushAll, flush]
  | cons event rest =>
      cases event with
      | done => simp [write, writeAll, flushAll, flush]
      | failure error =>
          by_cases interrupted : error.kind = .interrupted
          · have counted : flushCalls + ((flushAll rest).calls + 1) =
                flushCalls + 1 + (flushAll rest).calls := by
              omega
            simp [write, writeAll, flushAll, Attempt.after, flush, interrupted, counted]
          · simp [write, writeAll, flushAll, flush, interrupted]

/-- The calls of a write with these bytes left, up to the one that decides, and what it
gives. -/
inductive Course : List UInt8 → List Call → Except LinkError Unit → Prop
  | took {left : List UInt8} {count : Nat} {calls : List Call} {result : Except LinkError Unit}
      (some : left ≠ []) (positive : count ≠ 0) (rest : Course (left.drop count) calls result) :
      Course left (.write left (.ok count) :: calls) result
  | tookNothing {left : List UInt8} (some : left ≠ []) :
      Course left [.write left (.ok 0)] (.error .closed)
  | offerInterrupted {left : List UInt8} {error : IoError} {calls : List Call}
      {result : Except LinkError Unit} (some : left ≠ []) (interrupted : error.kind = .interrupted)
      (rest : Course left calls result) :
      Course left (.write left (.error error) :: calls) result
  | offerFailed {left : List UInt8} {error : IoError} (some : left ≠ [])
      (failing : error.kind ≠ .interrupted) :
      Course left [.write left (.error error)] (.error (.io error))
  | flushed : Course [] [.flush (.ok ())] (.ok ())
  | flushInterrupted {error : IoError} {calls : List Call} {result : Except LinkError Unit}
      (interrupted : error.kind = .interrupted) (rest : Course [] calls result) :
      Course [] (.flush (.error error) :: calls) result
  | flushFailed {error : IoError} (failing : error.kind ≠ .interrupted) :
      Course [] [.flush (.error error)] (.error (.io error))

/-- A bound for the calls of a write that do not decide: each of them takes an event off a
script, or all that is left of the data. -/
def outstanding (left : List UInt8) (outlet : Outlet) : Nat :=
  outlet.writes.length + outlet.flushes.length + if left = [] then 0 else 1

/-- An offer that is taken, in part or as a whole, leaves less to be done. -/
theorem outstanding_of_took {left : List UInt8} (some : left ≠ []) {outlet next : Outlet}
    {count : Nat} (offered : outlet.offer left = (.ok count, next)) :
    next.outstanding (left.drop count) < outlet.outstanding left := by
  obtain ⟨writes, flushes, written, writeCalls, flushCalls⟩ := outlet
  cases writes with
  | nil =>
      simp only [offer, List.head?_nil, Option.getD_none, Prod.mk.injEq,
        Except.ok.injEq] at offered
      obtain ⟨rfl, rfl⟩ := offered
      simp [outstanding, some]
  | cons event rest =>
      cases event with
      | accept limit =>
          simp only [offer, List.head?_cons, Option.getD_some, Prod.mk.injEq] at offered
          obtain ⟨_, rfl⟩ := offered
          simp only [outstanding, if_neg some, List.tail_cons, List.length_cons]
          split <;> omega
      | failure error => simp [offer] at offered

/-- A failure takes its event off the script. -/
theorem outstanding_of_offerFailed {left : List UInt8} {outlet next : Outlet} {error : IoError}
    (offered : outlet.offer left = (.error error, next)) :
    next.outstanding left < outlet.outstanding left := by
  obtain ⟨writes, flushes, written, writeCalls, flushCalls⟩ := outlet
  cases writes with
  | nil => simp [offer] at offered
  | cons event rest =>
      cases event with
      | accept limit => simp [offer] at offered
      | failure error =>
          simp only [offer, List.head?_cons, Option.getD_some, Prod.mk.injEq] at offered
          obtain ⟨_, rfl⟩ := offered
          simp [outstanding]

theorem outstanding_of_flushFailed {left : List UInt8} {outlet next : Outlet} {error : IoError}
    (flushed : outlet.flush = (.error error, next)) :
    next.outstanding left < outlet.outstanding left := by
  obtain ⟨writes, flushes, written, writeCalls, flushCalls⟩ := outlet
  cases flushes with
  | nil => simp [flush] at flushed
  | cons event rest =>
      cases event with
      | done => simp [flush] at flushed
      | failure error =>
          simp only [flush, List.head?_cons, Option.getD_some, Prod.mk.injEq] at flushed
          obtain ⟨_, rfl⟩ := flushed
          simp [outstanding]

/-- A write makes finitely many calls, which the outlet answers one by one. The recursion is on
the calls: each one that does not decide leaves less outstanding. -/
theorem exists_course (left : List UInt8) (outlet : Outlet) :
    ∃ calls : List Call, calls.length ≤ outlet.outstanding left + 1 ∧
      outlet.Answers calls (outlet.write left).2 ∧ Course left calls (outlet.write left).1 := by
  by_cases some : left = []
  · subst some
    rw [write_of_flush]
    rcases flushed : outlet.flush with ⟨error | done, next⟩
    · by_cases interrupted : error.kind = .interrupted
      · have fewer : next.outstanding [] < outlet.outstanding [] :=
          outstanding_of_flushFailed flushed
        obtain ⟨calls, bounded, answers, course⟩ := exists_course [] next
        simp only [if_pos interrupted]
        exact ⟨_, by simp only [List.length_cons]; omega, .flush flushed answers,
          .flushInterrupted interrupted course⟩
      · simp only [if_neg interrupted]
        exact ⟨_, by simp, .flush flushed (.nothing next), .flushFailed interrupted⟩
    · exact ⟨_, by simp, .flush flushed (.nothing next), .flushed⟩
  · rw [write_of_offer some]
    rcases offered : outlet.offer left with ⟨error | count, next⟩
    · by_cases interrupted : error.kind = .interrupted
      · have fewer := outstanding_of_offerFailed offered
        obtain ⟨calls, bounded, answers, course⟩ := exists_course left next
        simp only [if_pos interrupted]
        exact ⟨_, by simp only [List.length_cons]; omega, .write offered answers,
          .offerInterrupted some interrupted course⟩
      · simp only [if_neg interrupted]
        exact ⟨_, by simp, .write offered (.nothing next), .offerFailed some interrupted⟩
    · by_cases nothing : count = 0
      · subst nothing
        exact ⟨_, by simp, .write offered (.nothing next), .tookNothing some⟩
      · have fewer := outstanding_of_took some offered
        obtain ⟨calls, bounded, answers, course⟩ := exists_course (left.drop count) next
        simp only [if_neg nothing]
        exact ⟨_, by simp only [List.length_cons]; omega, .write offered answers,
          .took some nothing course⟩
termination_by outlet.outstanding left

end RadioSnapshot.Outlet
