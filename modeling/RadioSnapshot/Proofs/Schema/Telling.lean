import RadioSnapshot.Proofs.Schema.Concealment
import RadioSnapshot.Proofs.Schema.Document
import RadioSnapshot.Proofs.Schema.Variants

/-!
# What a record's text tells of it

What a record says tells every field of it apart, save the secret ones, which it leaves out,
and single-precision numbers, of which not all have a text. So two records that say the same
are the same once these are concealed. And no record makes an object with two members of one
name, which readers would not agree upon.
-/

namespace RadioSnapshot.Schema

open Wire Json

/-! ## Names in objects -/

/-- The names of the fields that are displayed. -/
def Fields.shownNames : Fields → List String
  | .done => []
  | .plain .shown _ name _ rest => name :: rest.shownNames
  | .plain .secret _ _ _ rest => rest.shownNames
  | .optional _ name _ rest | .byteStrings _ name rest | .message _ name _ rest
  | .choice _ name _ _ rest => name :: rest.shownNames

theorem Fields.names_toJson : (fields : Fields) → (record : fields.Record) →
    (fields.toJson record).map Prod.fst = fields.shownNames
  | .done, _ => rfl
  | .plain .shown _ name _ rest, (_, others) => congrArg (name :: ·) (rest.names_toJson others)
  | .plain .secret _ _ _ rest, (_, others) => rest.names_toJson others
  | .optional _ name _ rest, (_, others) => congrArg (name :: ·) (rest.names_toJson others)
  | .byteStrings _ name rest, (_, others) => congrArg (name :: ·) (rest.names_toJson others)
  | .message _ name _ rest, (_, others) => congrArg (name :: ·) (rest.names_toJson others)
  | .choice _ name _ _ rest, (_, others) => congrArg (name :: ·) (rest.names_toJson others)

mutual

/-- No two displayed fields have the same name, here and inside. -/
def MessageType.isDistinct : MessageType → Bool
  | .mk _ fields => decide fields.shownNames.Nodup && fields.isDistinct

def Fields.isDistinct : Fields → Bool
  | .done => true
  | .plain _ _ _ _ rest | .optional _ _ _ rest | .byteStrings _ _ rest => rest.isDistinct
  | .message _ _ type rest => type.isDistinct && rest.isDistinct
  | .choice _ _ _ members rest => members.isDistinct && rest.isDistinct

def Members.isDistinct : Members → Bool
  | .done => true
  | .scalar _ _ _ rest => rest.isDistinct
  | .message _ _ type rest => type.isDistinct && rest.isDistinct

end

theorem ScalarType.distinct_toJson (type : ScalarType) (value : type.Value) :
    (type.toJson value).Distinct := by
  cases type <;> trivial

theorem Labelling.distinct_label (name : String) {value : Json} (distinct : value.Distinct)
    (labelling : Labelling) : (labelling.label name value).Distinct := by
  cases labelling with
  | labelled => exact ⟨List.pairwise_singleton _ name, distinct, trivial⟩
  | bare => exact distinct

mutual

/-- No object in the JSON of a record has two members of one name. -/
theorem MessageType.distinct_toJson : (type : MessageType) → type.isDistinct = true →
    (record : type.Record) → (type.toJson record).Distinct
  | .mk _ fields, distinct, record => by
      simp only [MessageType.isDistinct, Bool.and_eq_true, decide_eq_true_eq] at distinct
      exact ⟨(fields.names_toJson record).symm ▸ distinct.1,
        fields.distinct_toJson distinct.2 record⟩

theorem Fields.distinct_toJson : (fields : Fields) → fields.isDistinct = true →
    (record : fields.Record) → MembersDistinct (fields.toJson record)
  | .done, _, _ => trivial
  | .plain .shown _ _ type rest, distinct, (value, others) =>
      ⟨type.distinct_toJson value, rest.distinct_toJson distinct others⟩
  | .plain .secret _ _ _ rest, distinct, (_, others) => rest.distinct_toJson distinct others
  | .optional _ _ type rest, distinct, (value, others) =>
      ⟨distinct_ofOption type.distinct_toJson value, rest.distinct_toJson distinct others⟩
  | .byteStrings _ _ rest, distinct, (_, others) =>
      ⟨allDistinct_of_forall (List.forall_mem_map.mpr fun value _ =>
        ScalarType.bytes.distinct_toJson value), rest.distinct_toJson distinct others⟩
  | .message _ _ type rest, distinct, (value, others) => by
      simp only [Fields.isDistinct, Bool.and_eq_true] at distinct
      exact ⟨distinct_ofOption (type.distinct_toJson distinct.1) value,
        rest.distinct_toJson distinct.2 others⟩
  | .choice _ _ labelling members rest, distinct, (value, others) => by
      simp only [Fields.isDistinct, Bool.and_eq_true] at distinct
      exact ⟨distinct_ofOption (fun value => labelling.distinct_label _
          (members.distinct_toJson distinct.1 value)) value,
        rest.distinct_toJson distinct.2 others⟩

theorem Members.distinct_toJson : (members : Members) → members.isDistinct = true →
    (choice : members.Choice) → (members.toJson choice).Distinct
  | .scalar _ _ type _, _, .inl value => type.distinct_toJson value
  | .scalar _ _ _ rest, distinct, .inr choice => rest.distinct_toJson distinct choice
  | .message _ _ type _, distinct, .inl value => by
      simp only [Members.isDistinct, Bool.and_eq_true] at distinct
      exact type.distinct_toJson distinct.1 value
  | .message _ _ _ rest, distinct, .inr choice => by
      simp only [Members.isDistinct, Bool.and_eq_true] at distinct
      exact rest.distinct_toJson distinct.2 choice

end

/-! ## Telling records apart -/

mutual

/-- The places of the plain fields that the text does not tell: those that are secret, and
single-precision numbers. -/
def MessageType.untold : MessageType → List Place
  | .mk name fields => fields.untold name

def Fields.untold (owner : String) : Fields → List Place
  | .done => []
  | .plain visibility _ name type rest =>
      if visibility = .secret ∨ type = .float then ⟨owner, name⟩ :: rest.untold owner
      else rest.untold owner
  | .optional _ _ _ rest | .byteStrings _ _ rest => rest.untold owner
  | .message _ _ type rest => type.untold ++ rest.untold owner
  | .choice _ _ _ members rest => members.untold ++ rest.untold owner

def Members.untold : Members → List Place
  | .done => []
  | .scalar _ _ _ rest => rest.untold
  | .message _ _ type rest => type.untold ++ rest.untold

end

mutual

/-- Single-precision numbers are in plain fields only, and there are no choices inside. -/
def MessageType.isDirect : MessageType → Bool
  | .mk _ fields => fields.isDirect

def Fields.isDirect : Fields → Bool
  | .done => true
  | .plain _ _ _ _ rest | .byteStrings _ _ rest => rest.isDirect
  | .optional _ _ type rest => decide (type ≠ .float) && rest.isDirect
  | .message _ _ type rest => type.isDirect && rest.isDirect
  | .choice _ _ _ _ _ => false

/-- The members are so, and no two have the same name. -/
def Members.isDirect : Members → Bool
  | .done => true
  | .scalar _ name type rest =>
      decide (type ≠ .float ∧ name ∉ rest.names) && rest.isDirect
  | .message _ name type rest =>
      type.isDirect && decide (name ∉ rest.names) && rest.isDirect

end

/-- What a value that is no single-precision number says tells it. -/
theorem ScalarType.document_injective {type : ScalarType} (told : type ≠ .float)
    {value other : type.Value} (same : type.document value = type.document other) :
    value = other := by
  cases type with
  | uint32 | fixed32 => exact UInt32.toNat_inj.mp (Int.natCast_inj.mp (Document.integer.inj same))
  | int32 => exact Int32.toInt_inj.mp (Document.integer.inj same)
  | bool => exact Document.bool.inj same
  | string => exact Document.string.inj same
  | bytes => exact hexText_injective (Document.string.inj same)
  | float => exact absurd rfl told

theorem ScalarType.document_ne_null {type : ScalarType} (told : type ≠ .float)
    (value : type.Value) : type.document value ≠ .null := by
  cases type with
  | float => exact absurd rfl told
  | _ => exact Document.noConfusion

theorem MessageType.document_ne_null (type : MessageType) (record : type.Record) :
    type.document record ≠ .null := by
  cases type with
  | mk name fields => exact Document.noConfusion

/-- A value that may be missing is told if the value is. -/
theorem document_option_injective {α β : Type} {said : α → Document} {shown : α → β}
    (present : ∀ value, said value ≠ .null)
    (injective : ∀ value other, said value = said other → shown value = shown other)
    {value other : Option α} (same : value.elim .null said = other.elim .null said) :
    value.map shown = other.map shown := by
  cases value with
  | none =>
      cases other with
      | none => rfl
      | some other => exact absurd same.symm (present other)
  | some value =>
      cases other with
      | none => exact absurd same (present value)
      | some other => exact congrArg some (injective value other same)

theorem document_option_eq {α : Type} {said : α → Document}
    (present : ∀ value, said value ≠ .null)
    (injective : ∀ value other, said value = said other → value = other) {value other : Option α}
    (same : value.elim .null said = other.elim .null said) : value = other := by
  have values : value.map id = other.map id :=
    document_option_injective present injective same
  rwa [Option.map_id, id, id] at values

/-- The name that goes with what a choice says is that of the present member. -/
theorem Members.fst_document (members : Members) (choice : members.Choice) :
    (members.document choice).1 = members.nameOf choice :=
  (congrArg Prod.fst (members.document_toJson choice)).symm

theorem Members.document_ne {members : Members} {name : String} (absent : name ∉ members.names)
    (said : Document) (choice : members.Choice) : (name, said) ≠ members.document choice := by
  intro same
  have names := congrArg Prod.fst same
  rw [members.fst_document] at names
  exact Members.nameOf_ne absent choice names

variable {hidden : List Place}

/-- What is covered of the fields is covered of those behind the first. -/
theorem Fields.covered_behind {owner : String} {visibility : Visibility} {tag : Nat} {name : String}
    {type : ScalarType} {rest : Fields}
    (covered : ∀ place ∈ (Fields.plain visibility tag name type rest).untold owner,
      hidden.contains place = true) :
    (visibility = .secret ∨ type = .float → hidden.contains ⟨owner, name⟩ = true) ∧
      ∀ place ∈ rest.untold owner, hidden.contains place = true := by
  rw [Fields.untold] at covered
  split at covered
  next untold =>
    obtain ⟨here, behind⟩ := List.forall_mem_cons.mp covered
    exact ⟨fun _ => here, behind⟩
  next told => exact ⟨fun untold => absurd untold told, covered⟩

mutual

/-- Records that say the same are the same apart from what is not told. -/
theorem MessageType.concealed_eq_of_document : (type : MessageType) → type.isDirect = true →
    (∀ place ∈ type.untold, hidden.contains place = true) → (record other : type.Record) →
      type.document record = type.document other →
        type.concealed hidden record = type.concealed hidden other
  | .mk name fields, direct, covered, record, other, same =>
      fields.concealed_eq_of_document name direct covered record other (Document.object.inj same)

theorem Fields.concealed_eq_of_document (owner : String) : (fields : Fields) →
    fields.isDirect = true → (∀ place ∈ fields.untold owner, hidden.contains place = true) →
      (record other : fields.Record) → fields.document record = fields.document other →
        fields.concealed hidden owner record = fields.concealed hidden owner other
  | .done, _, _, _, _, _ => rfl
  | .plain .shown _ name type rest, direct, covered, (value, others), (value', others'), same => by
      obtain ⟨here, behind⟩ := List.cons.inj same
      obtain ⟨numbers, covered⟩ := Fields.covered_behind covered
      have later := rest.concealed_eq_of_document owner direct covered others others' behind
      rw [Fields.concealed, Fields.concealed, later]
      by_cases number : type = .float
      · rw [numbers (.inr number)]
        rfl
      · rw [ScalarType.document_injective number (Prod.mk.inj here).2]
  | .plain .secret _ name type rest, direct, covered, (value, others), (value', others'), same => by
      obtain ⟨secret, covered⟩ := Fields.covered_behind covered
      have later := rest.concealed_eq_of_document owner direct covered others others' same
      rw [Fields.concealed, Fields.concealed, later, secret (.inl rfl)]
      rfl
  | .optional _ _ type rest, direct, covered, (value, others), (value', others'), same => by
      obtain ⟨here, behind⟩ := List.cons.inj same
      simp only [Fields.isDirect, Bool.and_eq_true, decide_eq_true_eq] at direct
      have values : value = value' := document_option_eq
        (ScalarType.document_ne_null direct.1)
        (fun _ _ => ScalarType.document_injective direct.1) (Prod.mk.inj here).2
      rw [Fields.concealed, Fields.concealed, values,
        rest.concealed_eq_of_document owner direct.2 covered others others' behind]
  | .byteStrings _ _ rest, direct, covered, (values, others), (values', others'), same => by
      obtain ⟨here, behind⟩ := List.cons.inj same
      have strings := Document.array.inj (Prod.mk.inj here).2
      have injective : Function.Injective fun bytes => Document.string (hexText bytes) :=
        fun _ _ same => hexText_injective (Document.string.inj same)
      rw [Fields.concealed, Fields.concealed, List.map_injective_iff.mpr injective strings,
        rest.concealed_eq_of_document owner direct covered others others' behind]
  | .message _ _ type rest, direct, covered, (value, others), (value', others'), same => by
      obtain ⟨here, behind⟩ := List.cons.inj same
      simp only [Fields.isDirect, Bool.and_eq_true] at direct
      obtain ⟨inside, covered⟩ := List.forall_mem_append.mp covered
      have values : value.map (type.concealed hidden) = value'.map (type.concealed hidden) :=
        document_option_injective type.document_ne_null
          (type.concealed_eq_of_document direct.1 inside) (Prod.mk.inj here).2
      rw [Fields.concealed, Fields.concealed, values,
        rest.concealed_eq_of_document owner direct.2 covered others others' behind]

/-- Choices that say the same under the same name are the same apart from what is not told. -/
theorem Members.concealed_eq_of_document : (members : Members) → members.isDirect = true →
    (∀ place ∈ members.untold, hidden.contains place = true) → (choice other : members.Choice) →
      members.document choice = members.document other →
        members.concealed hidden choice = members.concealed hidden other
  | .scalar _ _ type rest, direct, covered, .inl value, .inl other, same => by
      simp only [Members.isDirect, Bool.and_eq_true, decide_eq_true_eq] at direct
      rw [ScalarType.document_injective direct.1.1 (Prod.mk.inj same).2]
  | .scalar _ _ type rest, direct, covered, .inr choice, .inr other, same => by
      simp only [Members.isDirect, Bool.and_eq_true, decide_eq_true_eq] at direct
      exact congrArg Sum.inr (rest.concealed_eq_of_document direct.2 covered choice other same)
  | .scalar _ _ type rest, direct, covered, .inl value, .inr other, same => by
      simp only [Members.isDirect, Bool.and_eq_true, decide_eq_true_eq] at direct
      exact absurd same (Members.document_ne direct.1.2 _ other)
  | .scalar _ _ type rest, direct, covered, .inr choice, .inl other, same => by
      simp only [Members.isDirect, Bool.and_eq_true, decide_eq_true_eq] at direct
      exact absurd same.symm (Members.document_ne direct.1.2 _ choice)
  | .message _ _ type rest, direct, covered, .inl value, .inl other, same => by
      simp only [Members.isDirect, Bool.and_eq_true, decide_eq_true_eq] at direct
      obtain ⟨inside, _⟩ := List.forall_mem_append.mp covered
      exact congrArg Sum.inl
        (type.concealed_eq_of_document direct.1.1 inside value other (Prod.mk.inj same).2)
  | .message _ _ type rest, direct, covered, .inr choice, .inr other, same => by
      simp only [Members.isDirect, Bool.and_eq_true, decide_eq_true_eq] at direct
      obtain ⟨_, behind⟩ := List.forall_mem_append.mp covered
      exact congrArg Sum.inr (rest.concealed_eq_of_document direct.2 behind choice other same)
  | .message _ _ type rest, direct, covered, .inl value, .inr other, same => by
      simp only [Members.isDirect, Bool.and_eq_true, decide_eq_true_eq] at direct
      exact absurd same (Members.document_ne direct.1.2 _ other)
  | .message _ _ type rest, direct, covered, .inr choice, .inl other, same => by
      simp only [Members.isDirect, Bool.and_eq_true, decide_eq_true_eq] at direct
      exact absurd same.symm (Members.document_ne direct.1.2 _ choice)

end

mutual

/-- Concealing nothing changes nothing. -/
theorem MessageType.concealed_nil : (type : MessageType) → (record : type.Record) →
    type.concealed [] record = record
  | .mk name fields, record => fields.concealed_nil name record

theorem Fields.concealed_nil (owner : String) : (fields : Fields) → (record : fields.Record) →
    fields.concealed [] owner record = record
  | .done, _ => rfl
  | .plain _ _ _ _ rest, (value, others) =>
      congrArg (Prod.mk value) (rest.concealed_nil owner others)
  | .optional _ _ _ rest, (value, others) =>
      congrArg (Prod.mk value) (rest.concealed_nil owner others)
  | .byteStrings _ _ rest, (values, others) =>
      congrArg (Prod.mk values) (rest.concealed_nil owner others)
  | .message _ _ type rest, (value, others) => by
      rw [Fields.concealed, rest.concealed_nil owner others, funext type.concealed_nil]
      exact congrArg (·, others) Option.map_id'
  | .choice _ _ _ members rest, (value, others) => by
      rw [Fields.concealed, rest.concealed_nil owner others, funext members.concealed_nil]
      exact congrArg (·, others) Option.map_id'

theorem Members.concealed_nil : (members : Members) → (choice : members.Choice) →
    members.concealed [] choice = choice
  | .scalar _ _ _ _, .inl _ => rfl
  | .scalar _ _ _ rest, .inr choice => congrArg Sum.inr (rest.concealed_nil choice)
  | .message _ _ type _, .inl value => congrArg Sum.inl (type.concealed_nil value)
  | .message _ _ _ rest, .inr choice => congrArg Sum.inr (rest.concealed_nil choice)

end

/-- Records of which everything is told are the same if they say the same. -/
theorem MessageType.document_injective {type : MessageType} (direct : type.isDirect = true)
    (told : type.untold = []) {record other : type.Record}
    (same : type.document record = type.document other) : record = other := by
  have covered : ∀ place ∈ type.untold, ([] : List Place).contains place = true := by
    rw [told]
    exact List.forall_mem_nil _
  have concealed := type.concealed_eq_of_document direct covered record other same
  rwa [type.concealed_nil, type.concealed_nil] at concealed

end RadioSnapshot.Schema
