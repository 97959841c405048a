import RadioSnapshot.Proofs.Snapshot.ClosedForm

/-!
# Staying identified

A radio keeps its number once that is known, and it does not take back that it has sent
everything. Its hardware identifier is another matter: each further record of the radio's own
node that names an owner replaces it, and an owner may be named without an identifier. So
what is identified stays identified unless the last owner named for it is such a one.
-/

namespace RadioSnapshot

open Radio

namespace Radio.Message

variable {messages : List Message} {number : UInt32}

/-- The last owner that messages name for the radio with this number, which is known before
all of them. -/
def renamed? (number? : Option UInt32) (messages : List Message) : Option User :=
  ((messages.filter (isLocalTo number?)).filterMap user?).getLast?

theorem owner?_append (known : radioNumber? messages = some number) (more : List Message) :
    owner? (messages ++ more) = (renamed? (some number) more).or (owner? messages) := by
  rw [owner?, locals_append known, List.filterMap_append, List.getLast?_append, renamed?, owner?]

end Radio.Message

namespace Snapshot

theorem isReady_iff {snapshot : Snapshot} :
    snapshot.isReady = true ↔ snapshot.nodeNumber.isSome = true ∧ snapshot.hardwareId ≠ "" := by
  rw [isReady, Bool.and_eq_true, Bool.not_eq_true', String.isEmpty_eq_false_iff]

/-- An identified radio keeps its number whatever it says, and has the identifier of the
owner that is named last. It is identified still unless an owner without an identifier is
named last, and it is resolved as long as it is identified once it has said that it sent what
was asked for. -/
theorem readiness_decided_by_owner {request : UInt32} {messages : List Message}
    (ready : (ofMessages request messages).isReady = true) (more : List Message) :
    let before := ofMessages request messages
    let after := ofMessages request (messages ++ more)
    let renamed? := Message.renamed? before.nodeNumber more
    after.nodeNumber = before.nodeNumber ∧
      after.hardwareId = renamed?.elim before.hardwareId User.id ∧
      (after.isReady = true ↔ ∀ owner ∈ renamed?, owner.id ≠ "") ∧
      (after.isResolved = true ↔ .configComplete request ∈ messages ++ more ∧
        ∀ owner ∈ renamed?, owner.id ≠ "") := by
  intro before after renamed?
  have form : ClosedForm request messages before := .ofMessages request messages
  have further : ClosedForm request (messages ++ more) after := .ofMessages request _
  obtain ⟨numbered, identified⟩ := isReady_iff.mp ready
  obtain ⟨number, given⟩ := Option.isSome_iff_exists.mp numbered
  have known : Message.radioNumber? messages = some number := form.nodeNumber.symm.trans given
  have sameNumber : after.nodeNumber = before.nodeNumber := by
    rw [further.nodeNumber, Message.radioNumber?_append known]
    exact given.symm
  have lastNamed : Message.owner? (messages ++ more) =
      renamed?.or (Message.owner? messages) := by
    rw [Message.owner?_append known]
    exact congrArg (fun number? => (Message.renamed? number? more).or _) given.symm
  have lastId : after.hardwareId = renamed?.elim before.hardwareId User.id := by
    rw [further.hardwareId, form.hardwareId, lastNamed]
    cases renamed? <;> rfl
  have stillReady : after.isReady = true ↔ ∀ owner ∈ renamed?, owner.id ≠ "" := by
    rw [isReady_iff, sameNumber, and_iff_right numbered, lastId]
    cases renamed? with
    | none => simpa using identified
    | some owner => simp
  refine ⟨sameNumber, lastId, stillReady, ?_⟩
  rw [isResolved, Bool.and_eq_true, further.configComplete, stillReady]

/-- The record of node seven, with an owner of this identifier. -/
def sampleRecord (id : String) : Message :=
  .nodeRecord (7, some (id, "", "", [], 0, false, 0, [], ()), ⟨0⟩, 0, 0, false, none, ())

/-- Node seven says who it is, names an owner and has sent everything. -/
def sampleMessages : List Message :=
  [.nodeIdentity (7, 0, 0, [], "", ()), sampleRecord "!", .configComplete 64]

/-- An owner without an identifier does no harm when one with an identifier is named later. -/
theorem readiness_decided_by_owner_renamed :
    (ofMessages 64 sampleMessages).isReady = true ∧
      (ofMessages 64 (sampleMessages ++ [sampleRecord "", sampleRecord "!7"])).isResolved =
        true := by
  have ready : (ofMessages 64 sampleMessages).isReady = true := by decide
  have completed :
      .configComplete 64 ∈ sampleMessages ++ [sampleRecord "", sampleRecord "!7"] := by
    simp [sampleMessages]
  obtain ⟨_, _, _, resolved⟩ := readiness_decided_by_owner ready
    [sampleRecord "", sampleRecord "!7"]
  refine ⟨ready, resolved.mpr ⟨completed, ?_⟩⟩
  intro owner named
  cases named
  decide

/-- Once the record names an owner without an identifier, nothing is identified. -/
theorem readiness_lost_without_identifier :
    (ofMessages 64 sampleMessages).isResolved = true ∧
      (ofMessages 64 (sampleMessages ++ [sampleRecord ""])).isReady = false ∧
      (ofMessages 64 (sampleMessages ++ [sampleRecord ""])).isResolved = false := by
  decide

end Snapshot

end RadioSnapshot
