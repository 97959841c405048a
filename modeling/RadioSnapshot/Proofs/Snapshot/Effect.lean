import RadioSnapshot.Proofs.Schema.Equality
import RadioSnapshot.Proofs.Snapshot.ClosedForm

/-!
# Effects and changes

A message that is ignored leaves a snapshot as it is, but not every message that leaves a
snapshot as it is counts as ignored: one that says over again what the snapshot holds is
applied. This is the only exception.
-/

namespace RadioSnapshot

open Radio

deriving instance DecidableEq for NameTable

deriving instance DecidableEq for Snapshot

namespace Snapshot

/-- The message is about the radio and says nothing new of it: an identity that is settled
stays, whatever is said, and everything else is what the snapshot holds. -/
def holds (snapshot : Snapshot) : Message → Bool
  | .nodeIdentity info =>
      decide (snapshot.nodeNumber = some info.nodeNumber ∧
        (snapshot.deviceIdentity ≠ none ∨ info.deviceId = []))
  | .nodeRecord node =>
      decide (snapshot.nodeNumber = some node.number) &&
        node.user.any fun user =>
          decide (user.id = snapshot.hardwareId ∧ user.longName = snapshot.longName ∧
            user.shortName = snapshot.shortName ∧
            (snapshot.deviceIdentity ≠ none ∨ user.hardwareAddress = []))
  | .metadata descriptors => decide (snapshot.metadata = some descriptors)
  | .config settings =>
      decide (snapshot.config.get? (ConfigSection.name settings) = some settings)
  | .moduleConfig settings =>
      decide (snapshot.moduleConfig.get? (ModuleSection.name settings) = some settings)
  | _ => false

/-- What is true of every snapshot that is made of messages. -/
structure Sound (snapshot : Snapshot) : Prop where
  nonzero : snapshot.nodeNumber ≠ some 0
  config : snapshot.config.names.Pairwise (· < ·)
  moduleConfig : snapshot.moduleConfig.names.Pairwise (· < ·)

theorem sound_ofMessages (request : UInt32) (messages : List Message) :
    (ofMessages request messages).Sound := by
  have form := ClosedForm.ofMessages request messages
  refine ⟨?_, form.config.ascending, form.moduleConfig.ascending⟩
  rw [form.nodeNumber]
  exact Message.radioNumber?_ne_zero messages

variable {request : UInt32} {snapshot : Snapshot}

private theorem or_guard_eq_self_iff {known : Option (List UInt8)} {identity : List UInt8} :
    known.or (Option.guard (· ≠ []) identity) = known ↔ known ≠ none ∨ identity = [] := by
  cases known <;> simp

theorem offerIdentity_eq_self_iff {identity : List UInt8} :
    snapshot.offerIdentity identity = snapshot ↔
      snapshot.deviceIdentity ≠ none ∨ identity = [] := by
  rw [← or_guard_eq_self_iff, offerIdentity_eq, Snapshot.ext_iff]
  simp

/-- How the effect of a message goes with what becomes of the snapshot. -/
inductive Told (snapshot : Snapshot) (message : Message) : MergeEffect × Snapshot → Prop
  /-- It says nothing that counts. -/
  | ignored (unheld : snapshot.holds message = false) : Told snapshot message (.ignored, snapshot)
  /-- It says over again what is held. -/
  | repeated (held : snapshot.holds message = true) : Told snapshot message (.applied, snapshot)
  /-- It says something new. -/
  | changed {effect : MergeEffect} {after : Snapshot} (unheld : snapshot.holds message = false)
      (counted : effect ≠ .ignored) (differs : after ≠ snapshot) :
      Told snapshot message (effect, after)

theorem Told.applied {message : Message} {after : Snapshot}
    (same : after = snapshot ↔ snapshot.holds message = true) :
    Told snapshot message (.applied, after) := by
  cases held : snapshot.holds message with
  | true =>
      rw [same.mpr held]
      exact .repeated held
  | false =>
      refine .changed held MergeEffect.noConfusion ?_
      intro unchanged
      rw [same.mp unchanged] at held
      cases held

/-- To be ignored and to change nothing are the same, except for what is held already. -/
theorem Told.ignored_iff_unchanged {message : Message} {result : MergeEffect × Snapshot}
    (told : Told snapshot message result) :
    (result.1 = .ignored ↔ result.2 = snapshot) ↔ snapshot.holds message = false := by
  cases told with
  | ignored unheld => simp [unheld]
  | repeated held => simp [held]
  | changed unheld counted differs => simp [unheld, counted, differs]

theorem Told.eq_of_holds {message : Message} {result : MergeEffect × Snapshot}
    (told : Told snapshot message result) (held : snapshot.holds message = true) :
    result = (.applied, snapshot) := by
  cases told with
  | ignored unheld => simp [unheld] at held
  | repeated => rfl
  | changed unheld => simp [unheld] at held

theorem told_applyIdentity (sound : snapshot.Sound) (info : MyNodeInfo) :
    Told snapshot (.nodeIdentity info) (snapshot.applyIdentity info) := by
  rw [applyIdentity]
  split
  next zero =>
    have unknown : snapshot.nodeNumber ≠ some info.nodeNumber := zero ▸ sound.nonzero
    exact .ignored (decide_eq_false fun held => unknown held.1)
  next real =>
    split
    next missing =>
      refine .changed ?_ MergeEffect.noConfusion ?_
      · simp [holds, missing]
      · intro unchanged
        have kept := congrArg Snapshot.nodeNumber unchanged
        simp [offerIdentity_eq, missing] at kept
    next number known =>
      split
      next same =>
        apply Told.applied
        rw [offerIdentity_eq_self_iff, holds, decide_eq_true_iff, known, same]
        exact (and_iff_right rfl).symm
      next other => exact .ignored (by simp [holds, known, other])

theorem told_applyRecord (node : NodeInfo) (snapshot : Snapshot) :
    Told snapshot (.nodeRecord node) (snapshot.applyRecord node) := by
  rw [applyRecord]
  split
  next own =>
    split
    next unnamed => exact .ignored (by simp [holds, unnamed])
    next user named =>
      apply Told.applied
      rw [offerIdentity_eq, Snapshot.ext_iff, holds, own, named]
      simp only [or_guard_eq_self_iff, true_and, and_true, decide_true, Bool.true_and,
        Option.any_some, decide_eq_true_iff]
      rw [and_rotate, and_assoc]
  next foreign => exact .ignored (by simp [holds, foreign])

/-- A message is ignored, repeats what is held, or changes the snapshot. -/
theorem told_apply (sound : snapshot.Sound) (message : Message) :
    Told snapshot message (snapshot.apply request message) := by
  cases message with
  | nodeIdentity info => exact told_applyIdentity sound info
  | nodeRecord node => exact told_applyRecord node snapshot
  | metadata descriptors =>
      apply Told.applied
      rw [holds, decide_eq_true_iff, Snapshot.ext_iff]
      simp [eq_comm]
  | config settings =>
      apply Told.applied
      rw [holds, decide_eq_true_iff, ← NameTable.insert_eq_self_iff sound.config,
        Snapshot.ext_iff]
      simp
  | moduleConfig settings =>
      apply Told.applied
      rw [holds, decide_eq_true_iff, ← NameTable.insert_eq_self_iff sound.moduleConfig,
        Snapshot.ext_iff]
      simp
  | channel slot =>
      rw [apply]
      split
      next space =>
        refine .changed rfl MergeEffect.noConfusion ?_
        intro unchanged
        have kept := congrArg Snapshot.channels unchanged
        simp at kept
      next full => exact .ignored rfl
  | configComplete answered =>
      rw [apply]
      split
      next first =>
        refine .changed rfl MergeEffect.noConfusion ?_
        intro unchanged
        have kept := congrArg Snapshot.configComplete unchanged
        simp [first.2] at kept
      next later => exact .ignored rfl
  | logRecord | other => exact .ignored rfl

/-- A message that is merged, with the snapshot before it and what comes of it. -/
structure Merging where
  before : Snapshot
  message : Message
  result : MergeEffect × Snapshot

/-- The mergings of messages, one after the other. Log records are not merged. -/
def mergings (request : UInt32) : List Message → Snapshot → List Merging
  | [], _ => []
  | .logRecord _ :: rest, snapshot => mergings request rest snapshot
  | message :: rest, snapshot =>
      let result := snapshot.apply request message
      ⟨snapshot, message, result⟩ :: mergings request rest result.2

theorem mergings_append (request : UInt32) (first second : List Message) (snapshot : Snapshot) :
    mergings request (first ++ second) snapshot =
      mergings request first snapshot ++ mergings request second
        (first.foldl (fun snapshot message => (snapshot.apply request message).2) snapshot) := by
  induction first generalizing snapshot with
  | nil => rfl
  | cons message first ih =>
      cases message with
      | logRecord record => exact ih snapshot
      | _ => simp only [List.cons_append, mergings, List.foldl_cons, ih]

namespace Merging

def isIgnored (merging : Merging) : Bool :=
  decide (merging.result.1 = .ignored)

/-- The message counts, be it that it completes the snapshot or not. -/
def isCounted (merging : Merging) : Bool :=
  decide (merging.result.1 = .applied ∨ merging.result.1 = .candidateComplete)

/-- The snapshot is the same before and after. -/
def isUnchanged (merging : Merging) : Bool :=
  decide (merging.result.2 = merging.before)

/-- The message says what is held already. -/
def isRepeated (merging : Merging) : Bool :=
  merging.before.holds merging.message

/-- Every merging counts or is ignored. -/
theorem length_mergings (mergings : List Merging) :
    mergings.length = mergings.countP isIgnored + mergings.countP isCounted := by
  have decided (merging : Merging) : merging.isCounted = decide ¬merging.isIgnored = true := by
    obtain ⟨_, _, effect, _⟩ := merging
    cases effect <;> rfl
  rw [List.length_eq_countP_add_countP isIgnored, funext decided]

end Merging

/-- Messages that are merged one after the other are told of as single ones are. -/
theorem told_of_mem_mergings {seen messages : List Message} {merging : Merging}
    (member : merging ∈ mergings request messages (ofMessages request seen)) :
    Told merging.before merging.message merging.result := by
  induction messages generalizing seen with
  | nil => cases member
  | cons message messages ih =>
      cases message with
      | logRecord record => exact ih member
      | _ =>
          rcases List.mem_cons.mp member with rfl | later
          · exact @told_apply request _ (sound_ofMessages request seen) _
          · rw [← ofMessages_concat] at later
            exact ih later

/-- A merging that leaves the snapshot as it is is either ignored or a repetition. -/
theorem Merging.isUnchanged_once {merging : Merging}
    (told : Told merging.before merging.message merging.result) :
    (if merging.isUnchanged then 1 else 0) =
      (if merging.isIgnored then 1 else 0) + if merging.isRepeated then 1 else 0 := by
  obtain ⟨before, message, result⟩ := merging
  change Told before message result at told
  cases told with
  | ignored unheld => simp [isUnchanged, isIgnored, isRepeated, unheld]
  | repeated held => simp [isUnchanged, isIgnored, isRepeated, held]
  | changed unheld counted differs =>
      simp [isUnchanged, isIgnored, isRepeated, unheld, counted, differs]

/-- Mergings that are ignored and repetitions make up those that leave the snapshot as it
is. -/
theorem countP_isUnchanged {mergings : List Merging}
    (told : ∀ merging ∈ mergings, Told merging.before merging.message merging.result) :
    mergings.countP Merging.isUnchanged =
      mergings.countP Merging.isIgnored + mergings.countP Merging.isRepeated := by
  induction mergings with
  | nil => rfl
  | cons merging mergings ih =>
      obtain ⟨first, others⟩ := List.forall_mem_cons.mp told
      rw [List.countP_cons, List.countP_cons, List.countP_cons, ih others,
        Merging.isUnchanged_once first]
      omega

end Snapshot

end RadioSnapshot
