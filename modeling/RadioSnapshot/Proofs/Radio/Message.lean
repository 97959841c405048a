import Mathlib.Data.List.TakeWhile
import RadioSnapshot.Radio.Message

/-!
# What messages say of a radio

The number of a radio is the first that a message gives it, and this number decides
which messages are about the radio itself. Other messages name one part of its
configuration each.
-/

namespace RadioSnapshot.Radio.Message

/-- The number that a message gives the radio, where it gives one. -/
def claimedNumber? : Message → Option UInt32
  | .nodeIdentity info => if info.nodeNumber = 0 then none else some info.nodeNumber
  | _ => none

/-- The message is about the radio with this number. -/
def isLocal (number : UInt32) : Message → Bool
  | .nodeIdentity info => number == info.nodeNumber
  | .nodeRecord node => number == node.number && node.user.isSome
  | _ => false

/-- The owner that a message names. -/
def user? : Message → Option User
  | .nodeRecord node => node.user
  | _ => none

/-- The hardware identifier that a message carries, where it is not empty. -/
def hardwareAddress? : Message → Option (List UInt8)
  | .nodeIdentity info => Option.guard (· ≠ []) info.deviceId
  | .nodeRecord node => node.user.bind fun user => Option.guard (· ≠ []) user.hardwareAddress
  | _ => none

def metadata? : Message → Option DeviceMetadata
  | .metadata descriptors => some descriptors
  | _ => none

def settings? : Message → Option ConfigSection
  | .config settings => some settings
  | _ => none

def moduleSettings? : Message → Option ModuleSection
  | .moduleConfig settings => some settings
  | _ => none

def channel? : Message → Option Channel
  | .channel slot => some slot
  | _ => none

/-- The message says that what this request asked for has been sent. -/
def answers (request : UInt32) : Message → Bool
  | .configComplete answered => answered == request
  | _ => false

theorem answers_eq_true {request : UInt32} {message : Message} :
    message.answers request = true ↔ .configComplete request = message := by
  cases message with
  | configComplete answered =>
      rw [answers, beq_iff_eq, Message.configComplete.injEq]
      exact eq_comm
  | _ => simp [answers]

/-- The message is about the radio with this number, which has to be known. -/
def isLocalTo (number? : Option UInt32) (message : Message) : Bool :=
  number?.any message.isLocal

theorem isLocalTo_nodeIdentity (info : MyNodeInfo) (number? : Option UInt32) :
    (Message.nodeIdentity info).isLocalTo number? = decide (number? = some info.nodeNumber) := by
  cases number? with
  | none => rfl
  | some number =>
      simp only [isLocalTo, isLocal, Option.any_some, Option.some.injEq]
      rfl

theorem isLocalTo_nodeRecord (node : NodeInfo) (number? : Option UInt32) :
    (Message.nodeRecord node).isLocalTo number? =
      (decide (number? = some node.number) && node.user.isSome) := by
  cases number? with
  | none => rfl
  | some number =>
      simp only [isLocalTo, isLocal, Option.any_some, Option.some.injEq]
      rfl

/-- The number of the radio: the first that a message gives it. -/
def radioNumber? (messages : List Message) : Option UInt32 :=
  messages.findSome? claimedNumber?

/-- The messages about the radio itself, from the one that gives its number on. -/
def locals (messages : List Message) : List Message :=
  (messages.dropWhile (·.claimedNumber?.isNone)).filter (isLocalTo (radioNumber? messages))

/-- The owner of the radio: the last that a message about the radio names. -/
def owner? (messages : List Message) : Option User :=
  ((locals messages).filterMap user?).getLast?

theorem radioNumber?_concat (messages : List Message) (message : Message) :
    radioNumber? (messages ++ [message]) =
      (radioNumber? messages).or message.claimedNumber? := by
  simp [radioNumber?]

theorem radioNumber?_ne_zero (messages : List Message) : radioNumber? messages ≠ some 0 := by
  intro zero
  obtain ⟨message, _, claimed⟩ := List.exists_of_findSome?_eq_some zero
  cases message with
  | nodeIdentity info =>
      simp only [claimedNumber?] at claimed
      split at claimed
      · simp at claimed
      next nonzero => exact nonzero (Option.some.inj claimed)
  | _ => simp [claimedNumber?] at claimed

theorem radioNumber?_append {messages : List Message} {number : UInt32}
    (known : radioNumber? messages = some number) (more : List Message) :
    radioNumber? (messages ++ more) = some number := by
  rw [radioNumber?, List.findSome?_append, ← radioNumber?, known, Option.some_or]

/-- Once the number is known, further messages are added to the local ones when they are
local to it. -/
theorem locals_append {messages : List Message} {number : UInt32}
    (known : radioNumber? messages = some number) (more : List Message) :
    locals (messages ++ more) = locals messages ++ more.filter (isLocalTo (some number)) := by
  have claimed : ¬(messages.dropWhile (·.claimedNumber?.isNone)).isEmpty = true := by
    obtain ⟨first, member, claims⟩ := List.exists_of_findSome?_eq_some known
    simp only [List.isEmpty_iff, List.dropWhile_eq_nil_iff, not_forall]
    exact ⟨first, member, by simp [claims]⟩
  rw [locals, List.dropWhile_append, if_neg claimed, List.filter_append,
    radioNumber?_append known, locals, known]

/-- A message is added to the local ones when it is local to the number known
with it. -/
theorem locals_concat (messages : List Message) (message : Message) :
    locals (messages ++ [message]) = locals messages ++
      [message].filter (isLocalTo ((radioNumber? messages).or message.claimedNumber?)) := by
  cases known : radioNumber? messages with
  | some number => exact locals_append known [message]
  | none =>
      have unclaimed : ∀ other ∈ messages, other.claimedNumber?.isNone = true := by
        intro other member
        rw [List.findSome?_eq_none_iff.mp known other member]
        rfl
      rw [locals, List.dropWhile_append_of_pos unclaimed, radioNumber?_concat, known, locals,
        List.dropWhile_eq_nil_iff.mpr unclaimed]
      cases claims : message.claimedNumber? with
      | none => simp [isLocalTo, claims]
      | some number => simp [claims]

theorem owner?_concat (messages : List Message) (message : Message) :
    owner? (messages ++ [message]) =
      (if message.isLocalTo ((radioNumber? messages).or message.claimedNumber?) then
        message.user?
      else none).or (owner? messages) := by
  rw [owner?, locals_concat, List.filterMap_append, List.getLast?_append, owner?]
  congr 1
  split
  next own => cases named : message.user? <;> simp [own, named]
  next other => simp [other]

/-- What the owner is called, with one message more. -/
theorem owner?_concat_elim (messages : List Message) (message : Message)
    (called : User → String) :
    (owner? (messages ++ [message])).elim "" called =
      (if message.isLocalTo ((radioNumber? messages).or message.claimedNumber?) then
        message.user?
      else none).elim ((owner? messages).elim "" called) called := by
  rw [owner?_concat]
  split
  · cases message.user? <;> rfl
  · rfl

end RadioSnapshot.Radio.Message
