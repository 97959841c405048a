import RadioSnapshot.Proofs.Link.Calls

/-!
# What comes of a write

How a write ends and what the outlet has taken by then is read off the answers to its calls.
Interruptions leave no trace in either.
-/

namespace RadioSnapshot

def WriteEvent.isInterruption : WriteEvent → Bool
  | .failure error => error.kind = .interrupted
  | .accept _ => false

def FlushEvent.isInterruption : FlushEvent → Bool
  | .failure error => error.kind = .interrupted
  | .done => false

namespace Outlet

namespace Call

/-- The bytes that were taken. -/
def taken : Call → List UInt8
  | .write offered (.ok count) => offered.take count
  | _ => []

/-- The failure that was met. -/
def failure? : Call → Option IoError
  | .write _ (.error error) | .flush (.error error) => some error
  | _ => none

/-- Offers are of what is left of the data, and a flush is asked for when nothing is left. -/
def Continues (data before : List UInt8) : Call → Prop
  | .write offered _ => before ++ offered = data ∧ offered ≠ []
  | .flush _ => before = data

/-- What a call means for the write: a flush that succeeds and an offer of which nothing is
taken decide it, and so do all failures but interruptions. -/
def outcome? : Call → Option (Except LinkError Unit)
  | .write _ (.ok count) => if count = 0 then some (.error .closed) else none
  | .flush (.ok ()) => some (.ok ())
  | .write _ (.error error) | .flush (.error error) =>
      if error.kind = .interrupted then none else some (.error (.io error))

/-- A call goes on all the same when bytes were taken before. -/
theorem Continues.append {data before : List UInt8} {call : Call}
    (continues : call.Continues data before) (taken : List UInt8) :
    call.Continues (taken ++ data) (taken ++ before) := by
  cases call with
  | write offered answer => exact ⟨by rw [List.append_assoc, continues.1], continues.2⟩
  | flush answer => exact congrArg (taken ++ ·) continues

theorem outcome?_eq_ok_iff {call : Call} :
    call.outcome? = some (.ok ()) ↔ call = .flush (.ok ()) := by
  rcases call with ⟨offered, error | count⟩ | ⟨error | done⟩ <;> simp [outcome?]

theorem outcome?_eq_closed_iff {call : Call} :
    call.outcome? = some (.error .closed) ↔ ∃ offered, call = .write offered (.ok 0) := by
  rcases call with ⟨offered, error | count⟩ | ⟨error | done⟩ <;> simp [outcome?]

theorem outcome?_eq_io_iff {call : Call} {error : IoError} :
    call.outcome? = some (.error (.io error)) ↔
      call.failure? = some error ∧ error.kind ≠ .interrupted := by
  rcases call with ⟨offered, cause | count⟩ | ⟨cause | done⟩ <;>
    simp only [outcome?, failure?] <;> grind

end Call

/-- The bytes that calls took. -/
def accepted (calls : List Call) : List UInt8 :=
  calls.flatMap Call.taken

/-- The failures that calls met. -/
def failures (calls : List Call) : List IoError :=
  calls.filterMap Call.failure?

/-- Every call goes on where those before it left off. -/
def Gapless (data : List UInt8) (calls : List Call) : Prop :=
  ∀ before call after, calls = before ++ call :: after →
    call.Continues data (accepted before)

theorem Gapless.nil (data : List UInt8) : Gapless data [] := by
  intro before call after split
  simp at split

theorem Gapless.cons {data left : List UInt8} {calls : List Call} {call : Call}
    (continues : call.Continues data []) (taken : call.taken ++ left = data)
    (gapless : Gapless left calls) : Gapless data (call :: calls) := by
  subst taken
  intro before other after split
  cases before with
  | nil =>
      obtain ⟨rfl, rfl⟩ := List.cons_eq_cons.mp split
      exact continues
  | cons first before =>
      obtain ⟨rfl, rfl⟩ := List.cons_eq_cons.mp split
      exact (gapless before other after rfl).append call.taken

/-- Calls without a gap take the beginning of the data. -/
theorem Gapless.accepted_isPrefix {data : List UInt8} {before : List Call} {last : Call}
    (gapless : Gapless data (before ++ [last])) : accepted (before ++ [last]) <+: data := by
  have continues := gapless before last [] rfl
  simp only [accepted, List.flatMap_append, List.flatMap_singleton] at continues ⊢
  cases last with
  | write offered answer =>
      rw [← continues.1]
      apply List.prefix_append_right_inj _ |>.mpr
      cases answer with
      | error error => exact List.nil_prefix
      | ok count => exact List.take_prefix count offered
  | flush answer =>
      obtain rfl : before.flatMap Call.taken = data := continues
      cases answer <;> simp [Call.taken]

/-- The last call gives the result, and none before it gives one. -/
def Decides (calls : List Call) (result : Except LinkError Unit) : Prop :=
  ∃ before last, calls = before ++ [last] ∧ last.outcome? = some result ∧
    ∀ call ∈ before, call.outcome? = none

namespace Decides

variable {calls : List Call} {result : Except LinkError Unit}

theorem single {call : Call} (outcome : call.outcome? = some result) : Decides [call] result :=
  ⟨[], call, rfl, outcome, List.forall_mem_nil _⟩

theorem cons {call : Call} (undecided : call.outcome? = none) (decides : Decides calls result) :
    Decides (call :: calls) result := by
  obtain ⟨before, last, rfl, outcome, others⟩ := decides
  exact ⟨call :: before, last, rfl, outcome, List.forall_mem_cons.mpr ⟨undecided, others⟩⟩

/-- A call that gives a result is the last one. -/
theorem exists_before (decides : Decides calls result) {call : Call} (member : call ∈ calls)
    (given : call.outcome? ≠ none) : ∃ before, calls = before ++ [call] := by
  obtain ⟨before, last, rfl, _, others⟩ := decides
  rcases List.mem_append.mp member with early | late
  · exact absurd (others call early) given
  · exact ⟨before, by rw [List.mem_singleton.mp late]⟩

/-- What some call gives is the result. -/
theorem result_eq_iff (decides : Decides calls result) (other : Except LinkError Unit) :
    result = other ↔ ∃ call ∈ calls, call.outcome? = some other := by
  obtain ⟨before, last, rfl, outcome, others⟩ := decides
  constructor
  · rintro rfl
    exact ⟨last, List.mem_append_right _ List.mem_cons_self, outcome⟩
  · rintro ⟨call, member, given⟩
    rcases List.mem_append.mp member with early | late
    · rw [others call early] at given
      cases given
    · rw [List.mem_singleton.mp late, outcome] at given
      exact Option.some.inj given

end Decides

namespace Course

variable {data : List UInt8} {calls : List Call} {result : Except LinkError Unit}

theorem decides (course : Course data calls result) : Decides calls result := by
  induction course with
  | took some positive rest ih => exact ih.cons (if_neg positive)
  | tookNothing some => exact .single rfl
  | offerInterrupted some interrupted rest ih => exact ih.cons (if_pos interrupted)
  | offerFailed some failing => exact .single (if_neg failing)
  | flushed => exact .single rfl
  | flushInterrupted interrupted rest ih => exact ih.cons (if_pos interrupted)
  | flushFailed failing => exact .single (if_neg failing)

theorem gapless (course : Course data calls result) : Gapless data calls := by
  induction course with
  | took some positive rest ih => exact ih.cons ⟨rfl, some⟩ (List.take_append_drop _ _)
  | tookNothing some => exact (Gapless.nil _).cons ⟨rfl, some⟩ rfl
  | offerInterrupted some interrupted rest ih => exact ih.cons ⟨rfl, some⟩ rfl
  | offerFailed some failing => exact (Gapless.nil _).cons ⟨rfl, some⟩ rfl
  | flushed => exact (Gapless.nil []).cons rfl rfl
  | flushInterrupted interrupted rest ih => exact ih.cons rfl rfl
  | flushFailed failing => exact (Gapless.nil []).cons rfl rfl

theorem accepted_isPrefix (course : Course data calls result) : accepted calls <+: data := by
  obtain ⟨before, last, rfl, _⟩ := course.decides
  exact course.gapless.accepted_isPrefix

/-- A write succeeds when all of the data was taken and a flush succeeded. -/
theorem result_eq_ok_iff (course : Course data calls result) :
    result = .ok () ↔ accepted calls = data ∧ .flush (.ok ()) ∈ calls := by
  rw [course.decides.result_eq_iff]
  simp only [Call.outcome?_eq_ok_iff, exists_eq_right]
  refine ⟨fun member => ⟨?_, member⟩, And.right⟩
  obtain ⟨before, rfl⟩ := course.decides.exists_before member (by simp [Call.outcome?])
  have all : accepted before = data := course.gapless before _ [] rfl
  rw [accepted, List.flatMap_append, ← accepted, all]
  simp [Call.taken]

/-- A write finds the outlet closed when nothing was taken of an offer. -/
theorem result_eq_closed_iff (course : Course data calls result) :
    result = .error .closed ↔
      ∃ before offered after, calls = before ++ .write offered (.ok 0) :: after ∧
        accepted before ≠ data := by
  rw [course.decides.result_eq_iff]
  simp only [Call.outcome?_eq_closed_iff]
  constructor
  · rintro ⟨_, member, offered, rfl⟩
    obtain ⟨before, after, rfl⟩ := List.append_of_mem member
    obtain ⟨rest, some⟩ := course.gapless before _ after rfl
    refine ⟨before, offered, after, rfl, fun all => some ?_⟩
    rw [all] at rest
    exact List.append_right_eq_self.mp rest
  · rintro ⟨before, offered, after, rfl, _⟩
    exact ⟨_, List.mem_append_right before List.mem_cons_self, offered, rfl⟩

/-- Only a failure that is no interruption is passed on, and each one is. -/
theorem result_eq_io_iff_mem (course : Course data calls result) {error : IoError} :
    result = .error (.io error) ↔ error ∈ failures calls ∧ error.kind ≠ .interrupted := by
  rw [course.decides.result_eq_iff]
  simp only [Call.outcome?_eq_io_iff, failures, List.mem_filterMap]
  exact ⟨fun ⟨call, member, failure, kind⟩ => ⟨⟨call, member, failure⟩, kind⟩,
    fun ⟨⟨call, member, failure⟩, kind⟩ => ⟨call, member, failure, kind⟩⟩

/-- A write fails with the first failure that is no interruption. -/
theorem result_eq_io_iff (course : Course data calls result) (error : IoError) :
    result = .error (.io error) ↔
      (failures calls).find? (fun failure => failure.kind ≠ .interrupted) = some error := by
  have passedOn {first : IoError}
      (found : (failures calls).find? (fun failure => failure.kind ≠ .interrupted) =
        some first) : result = .error (.io first) := by
    have kind := List.find?_some found
    exact course.result_eq_io_iff_mem.mpr
      ⟨List.mem_of_find?_eq_some found, by simpa using kind⟩
  refine ⟨fun failed => ?_, passedOn⟩
  obtain ⟨member, kind⟩ := course.result_eq_io_iff_mem.mp failed
  have exists_found :
      ((failures calls).find? (fun failure => failure.kind ≠ .interrupted)).isSome :=
    List.find?_isSome.mpr ⟨error, member, by simpa using kind⟩
  obtain ⟨first, found⟩ := Option.isSome_iff_exists.mp exists_found
  obtain rfl : error = first := by simpa [passedOn found, eq_comm] using failed
  exact found

end Course

/-- What an outlet has taken is what it had taken before, and what the calls took. -/
theorem Answers.written_eq {outlet last : Outlet} {calls : List Call}
    (answers : outlet.Answers calls last) : last.written = outlet.written ++ accepted calls := by
  induction answers with
  | nothing outlet => simp [accepted]
  | @write outlet next last bytes answer calls offered rest ih =>
      have step : next.written = outlet.written ++ (Call.write bytes answer).taken := by
        simp only [offer] at offered
        split at offered <;> cases offered <;> simp [Call.taken]
      rw [ih, step, List.append_assoc]
      rfl
  | @flush outlet next last answer calls flushed rest ih =>
      have step : next.written = outlet.written := by
        simp only [Outlet.flush] at flushed
        split at flushed <;> cases flushed <;> rfl
      rw [ih, step]
      rfl

/-- A write takes the beginning of its data, and all of it when it succeeds. -/
theorem exists_taken (data : List UInt8) (outlet : Outlet) :
    ∃ taken : List UInt8, (outlet.write data).2.written = outlet.written ++ taken ∧
      taken <+: data ∧ ((outlet.write data).1 = .ok () → taken = data) := by
  obtain ⟨calls, _, answers, course⟩ := exists_course data outlet
  exact ⟨accepted calls, answers.written_eq, course.accepted_isPrefix,
    fun succeeded => (course.result_eq_ok_iff.mp succeeded).1⟩

/-- The outlet without the interruptions in its scripts. -/
def uninterrupted (outlet : Outlet) : Outlet :=
  { outlet with
    writes := outlet.writes.filter fun event => !event.isInterruption
    flushes := outlet.flushes.filter fun event => !event.isInterruption }

theorem writeAll_uninterrupted (script : List WriteEvent) (data : List UInt8) :
    let near := writeAll (script.filter fun event => !event.isInterruption) data
    near.result = (writeAll script data).result ∧ near.taken = (writeAll script data).taken := by
  fun_induction writeAll script data with
  | case1 script => simp [writeAll]
  | case2 data => simp [writeAll]
  | case3 rest data nonempty => simp [WriteEvent.isInterruption, writeAll]
  | case4 limit rest data nonempty positive ih =>
      simpa [WriteEvent.isInterruption, writeAll, Attempt.after] using ih
  | case5 error rest data nonempty interrupted ih =>
      simpa [WriteEvent.isInterruption, interrupted, Attempt.after] using ih
  | case6 error rest data nonempty failing =>
      simp [WriteEvent.isInterruption, writeAll, failing]

theorem flushAll_uninterrupted (script : List FlushEvent) :
    (flushAll (script.filter fun event => !event.isInterruption)).result =
      (flushAll script).result := by
  fun_induction flushAll script with
  | case1 => rfl
  | case2 rest => rfl
  | case3 error rest interrupted ih =>
      simpa [FlushEvent.isInterruption, interrupted, Attempt.after] using ih
  | case4 error rest failing => simp [FlushEvent.isInterruption, flushAll, failing]

/-- Interruptions change nothing about what is taken and how a write ends. -/
theorem write_uninterrupted (data : List UInt8) (outlet : Outlet) :
    (outlet.uninterrupted.write data).1 = (outlet.write data).1 ∧
      (outlet.uninterrupted.write data).2.written = (outlet.write data).2.written := by
  obtain ⟨sameResult, sameTaken⟩ := writeAll_uninterrupted outlet.writes data
  have sameFlush := flushAll_uninterrupted outlet.flushes
  simp only [write, uninterrupted, sameResult, sameTaken, sameFlush]
  split <;> exact ⟨rfl, rfl⟩

/-- What a write does is decided by its calls.

Data is written through an outlet with any scripts in finitely many calls, each of which goes
on where those before it left off: what is left is offered as long as there is some, and a flush
is asked for only then. The last call decides, and no other. So a write succeeds when all of the
data was taken, in order and once, and a flush succeeded; it finds the outlet closed when nothing
was taken of an offer; and it fails with the first failure that is no interruption. What was
taken is the beginning of the data in any case, and without the interruptions the write would
have been the same. -/
theorem write_decided_by_calls (data : List UInt8) (outlet : Outlet) :
    let ended := outlet.write data
    ∃ calls : List Call,
      outlet.Answers calls ended.2 ∧
      calls.length ≤ outlet.writes.length + outlet.flushes.length + 2 ∧
      Gapless data calls ∧
      Decides calls ended.1 ∧
      ended.2.written = outlet.written ++ accepted calls ∧ accepted calls <+: data ∧
      (ended.1 = .ok () ↔ accepted calls = data ∧ .flush (.ok ()) ∈ calls) ∧
      (ended.1 = .error .closed ↔
        ∃ before offered after, calls = before ++ .write offered (.ok 0) :: after ∧
          accepted before ≠ data) ∧
      (∀ error, ended.1 = .error (.io error) ↔
        (failures calls).find? (fun failure => failure.kind ≠ .interrupted) = some error) ∧
      (∀ error : IoError, error.kind = .interrupted → ended.1 ≠ .error (.io error)) ∧
      (outlet.uninterrupted.write data).1 = ended.1 ∧
      (outlet.uninterrupted.write data).2.written = ended.2.written := by
  intro ended
  obtain ⟨calls, bounded, answers, course⟩ := exists_course data outlet
  refine ⟨calls, answers, ?_, course.gapless, course.decides, answers.written_eq,
    course.accepted_isPrefix, course.result_eq_ok_iff, course.result_eq_closed_iff,
    course.result_eq_io_iff, ?_, write_uninterrupted data outlet⟩
  · rw [outstanding] at bounded
    split at bounded <;> omega
  · intro error interrupted failed
    exact (course.result_eq_io_iff_mem.mp failed).2 interrupted

/-- Two bytes are taken, an interruption is passed over, and then the outlet is closed. -/
theorem write_decided_by_calls_closed :
    let outlet := ofScripts [.accept 2, .failure ⟨.interrupted, none⟩, .accept 0] []
    (outlet.write [1, 2, 3]).1 = .error .closed ∧
      (outlet.write [1, 2, 3]).1 ≠ .error (.io ⟨.interrupted, none⟩) ∧
      ∃ calls : List Call, Gapless [1, 2, 3] calls ∧ accepted calls = [1, 2] ∧
        ∃ before offered after, calls = before ++ .write offered (.ok 0) :: after ∧
          accepted before ≠ [1, 2, 3] := by
  intro outlet
  have closed : (outlet.write [1, 2, 3]).1 = .error .closed := rfl
  have written : (outlet.write [1, 2, 3]).2.written = [1, 2] := rfl
  obtain ⟨calls, _, _, gapless, _, taken, _, _, closed_iff, _, uninterrupted, _⟩ :=
    write_decided_by_calls [1, 2, 3] outlet
  exact ⟨closed, uninterrupted _ rfl, calls, gapless, taken.symm.trans written,
    closed_iff.mp closed⟩

end Outlet

end RadioSnapshot
