import Mathlib.Data.List.Basic
import RadioSnapshot.Proofs.Radio.Message

/-!
# Strands of messages

Every message that counts tells of one topic, and the messages on one topic, in their
order, are a strand. Which messages count depends on the number of the radio, which may be
told later than the messages that it decides about. What is read off all messages of one
kind can be read off their strand.
-/

namespace RadioSnapshot.Radio.Message

/-- What a message tells of. -/
inductive Topic where
  /-- Who the radio is and what its owner calls it. -/
  | owner
  | metadata
  | config (name : String)
  | moduleConfig (name : String)
  | channel
  | completion
  deriving BEq, DecidableEq, Repr

def topic? : Message → Option Topic
  | .nodeIdentity _ | .nodeRecord _ => some .owner
  | .metadata _ => some .metadata
  | .config settings => some (.config (ConfigSection.name settings))
  | .moduleConfig settings => some (.moduleConfig (ModuleSection.name settings))
  | .channel _ => some .channel
  | .configComplete _ => some .completion
  | .logRecord _ | .other _ => none

/-- A message counts unless it is a log record or traffic, an identity without a number, a
record of another node or of none with an owner, or the answer to another request. -/
def counts (request : UInt32) (number? : Option UInt32) : Message → Bool
  | .nodeIdentity info => info.nodeNumber != 0
  | .nodeRecord node => decide (number? = some node.number) && node.user.isSome
  | .configComplete answered => answered == request
  | .logRecord _ | .other _ => false
  | _ => true

/-- The messages that count. -/
def counting (request : UInt32) (messages : List Message) : List Message :=
  messages.filter (counts request (radioNumber? messages))

/-- The messages on a topic that count. -/
def strand (request : UInt32) (topic : Topic) (messages : List Message) : List Message :=
  (counting request messages).filter (·.topic? = some topic)

variable {request : UInt32} {messages : List Message}

/-- A message that gives the radio a number counts, and tells of its owner. -/
theorem counts_of_claimedNumber? (request : UInt32) (number? : Option UInt32)
    {message : Message} {number : UInt32} (claims : message.claimedNumber? = some number) :
    message.counts request number? = true ∧ message.topic? = some .owner := by
  cases message with
  | nodeIdentity info =>
      rw [claimedNumber?, Option.ite_none_left_eq_some] at claims
      exact ⟨bne_iff_ne.mpr claims.1, rfl⟩
  | _ => simp [claimedNumber?] at claims

/-- A message about the radio counts, and tells of its owner. -/
theorem counts_of_isLocalTo (request : UInt32) {number? : Option UInt32} {message : Message}
    (nonzero : number? ≠ some 0)
    (own : message.isLocalTo number? = true) :
    message.counts request number? = true ∧ message.topic? = some .owner := by
  cases message with
  | nodeIdentity info =>
      rw [isLocalTo_nodeIdentity, decide_eq_true_iff] at own
      rw [own, Ne, Option.some.injEq] at nonzero
      exact ⟨bne_iff_ne.mpr nonzero, rfl⟩
  | nodeRecord node =>
      rw [isLocalTo_nodeRecord] at own
      exact ⟨own, rfl⟩
  | _ => cases number? <;> simp [isLocalTo, isLocal] at own

/-- A reader of messages that finds something only in those that count and tell of this
topic. -/
def Reads {α : Type} (request : UInt32) (topic : Topic) (read : Message → Option α) : Prop :=
  ∀ (message : Message) (value : α) (number? : Option UInt32), read message = some value →
    message.counts request number? = true ∧ message.topic? = some topic

theorem reads_claimedNumber? (request : UInt32) : Reads request .owner claimedNumber? :=
  fun _ _ number? claims => counts_of_claimedNumber? request number? claims

theorem reads_metadata? (request : UInt32) : Reads request .metadata metadata? := by
  intro message value number? found
  cases message <;> cases found
  exact ⟨rfl, rfl⟩

theorem reads_channel? (request : UInt32) : Reads request .channel channel? := by
  intro message value number? found
  cases message <;> cases found
  exact ⟨rfl, rfl⟩

theorem reads_settings? (request : UInt32) (name : String) :
    Reads request (.config name) fun message =>
      message.settings?.filter (ConfigSection.name · = name) := by
  intro message value number? found
  obtain ⟨carried, named⟩ := Option.filter_eq_some_iff.mp found
  cases message <;> cases carried
  exact ⟨rfl, congrArg (some ∘ Topic.config) (of_decide_eq_true named)⟩

theorem reads_moduleSettings? (request : UInt32) (name : String) :
    Reads request (.moduleConfig name) fun message =>
      message.moduleSettings?.filter (ModuleSection.name · = name) := by
  intro message value number? found
  obtain ⟨carried, named⟩ := Option.filter_eq_some_iff.mp found
  cases message <;> cases carried
  exact ⟨rfl, congrArg (some ∘ Topic.moduleConfig) (of_decide_eq_true named)⟩

/-- What is read on a topic is read off its strand. -/
theorem Reads.filterMap_strand {α : Type} {topic : Topic} {read : Message → Option α}
    (reads : Reads request topic read) (messages : List Message) :
    (strand request topic messages).filterMap read = messages.filterMap read := by
  rw [strand, counting, List.filter_filter, List.filterMap_filter]
  apply List.filterMap_congr
  intro message _
  split
  next => rfl
  next unread =>
    cases found : read message with
    | none => rfl
    | some value =>
        obtain ⟨counted, told⟩ := reads message value (radioNumber? messages) found
        simp [counted, told] at unread

/-- Messages with the same strand are read alike. -/
theorem Reads.filterMap_eq {α : Type} {topic : Topic} {read : Message → Option α}
    (reads : Reads request topic read) {others : List Message}
    (same : strand request topic messages = strand request topic others) :
    messages.filterMap read = others.filterMap read := by
  rw [← reads.filterMap_strand messages, same, reads.filterMap_strand]

/-- The number of the radio does not depend on messages that do not give it one. -/
theorem radioNumber?_filter {keep : Message → Bool}
    (claiming : ∀ message ∈ messages, message.claimedNumber?.isSome = true →
      keep message = true) : radioNumber? (messages.filter keep) = radioNumber? messages := by
  rw [radioNumber?, radioNumber?, ← List.head?_filterMap, ← List.head?_filterMap,
    List.filterMap_filter]
  congr 1
  apply List.filterMap_congr
  intro message member
  split
  next => rfl
  next dropped =>
    cases claims : message.claimedNumber? with
    | none => rfl
    | some number => exact absurd (claiming message member (by rw [claims]; rfl)) dropped

/-- The messages that count give the radio its number. -/
theorem radioNumber?_counting (request : UInt32) (messages : List Message) :
    radioNumber? (counting request messages) = radioNumber? messages := by
  apply radioNumber?_filter
  intro message _ claims
  obtain ⟨number, claimed⟩ := Option.isSome_iff_exists.mp claims
  exact (counts_of_claimedNumber? request _ claimed).1

/-- Messages that do not count make no difference to any strand. -/
theorem strand_counting (request : UInt32) (topic : Topic) (messages : List Message) :
    strand request topic (counting request messages) = strand request topic messages := by
  have again : counting request (counting request messages) = counting request messages := by
    rw [counting, radioNumber?_counting, counting, List.filter_filter]
    simp only [Bool.and_self]
  rw [strand, again, strand]

/-- Messages on different topics may change places. -/
theorem strand_swap (request : UInt32) (topic : Topic) (front back : List Message)
    {one other : Message} (differ : one.topic? ≠ other.topic?) :
    strand request topic (front ++ [one, other] ++ back) =
      strand request topic (front ++ [other, one] ++ back) := by
  have number : radioNumber? (front ++ [one, other] ++ back) =
      radioNumber? (front ++ [other, one] ++ back) := by
    simp only [radioNumber?, List.findSome?_append, List.findSome?_cons, List.findSome?_nil]
    cases claims : one.claimedNumber? with
    | none => cases other.claimedNumber? <;> rfl
    | some number =>
        cases otherClaims : other.claimedNumber? with
        | none => rfl
        | some otherNumber =>
            have told := (counts_of_claimedNumber? request none claims).2
            have otherTold := (counts_of_claimedNumber? request none otherClaims).2
            exact absurd (told.trans otherTold.symm) differ
  simp only [strand, counting, number, List.filter_filter, List.filter_append]
  congr 2
  -- At most one of the two is on the topic.
  by_cases told : one.topic? = some topic
  · have otherUntold : other.topic? ≠ some topic := fun otherTold =>
      differ (told.trans otherTold.symm)
    simp [List.filter_cons, otherUntold]
  · simp [List.filter_cons, told]

/-- The messages about the radio are those of the strand on its owner. -/
theorem locals_strand (request : UInt32) (messages : List Message) :
    locals (strand request .owner messages) = locals messages := by
  have claiming : ∀ message : Message, message.claimedNumber?.isNone = false →
      (decide (message.topic? = some .owner) &&
        message.counts request (radioNumber? messages)) = true := by
    intro message claims
    obtain ⟨number, claimed⟩ := Option.isSome_iff_exists.mp (Option.isNone_eq_false_iff.mp claims)
    obtain ⟨counted, told⟩ := counts_of_claimedNumber? request (radioNumber? messages) claimed
    rw [counted, told]
    rfl
  have number : radioNumber? (strand request .owner messages) = radioNumber? messages := by
    rw [strand, counting, List.filter_filter]
    apply radioNumber?_filter
    intro message _ claims
    exact claiming message (Option.isNone_eq_false_iff.mpr claims)
  rw [locals, number, strand, counting, List.filter_filter, List.dropWhile_filter,
    List.filter_filter, locals]
  have unclaimed : (fun message : Message =>
      !(decide (message.topic? = some .owner) &&
        message.counts request (radioNumber? messages)) || message.claimedNumber?.isNone) =
      fun message => message.claimedNumber?.isNone := by
    funext message
    cases claims : message.claimedNumber?.isNone with
    | true => exact Bool.or_true _
    | false => rw [claiming message claims]; rfl
  rw [unclaimed]
  apply List.filter_congr
  intro message _
  cases own : message.isLocalTo (radioNumber? messages) with
  | false => rfl
  | true =>
      obtain ⟨counted, told⟩ := counts_of_isLocalTo request (radioNumber?_ne_zero messages) own
      rw [counted, told]
      rfl

theorem mem_strand_completion (request : UInt32) (messages : List Message) :
    .configComplete request ∈ strand request .completion messages ↔
      .configComplete request ∈ messages := by
  simp [strand, counting, counts, topic?]

end RadioSnapshot.Radio.Message
