import RadioSnapshot.Proofs.Schema.Confinement
import RadioSnapshot.Proofs.Schema.RoundTrip

/-!
# Cut encodings

What is written for a value is used up when the value is read: no reader stops inside it.
A reader that is confined can therefore not be content with a part of it either, since it
would stop there in the whole as well.
-/

namespace RadioSnapshot

namespace Wire

/-- The digits of a number are used up, whether a reader accepts the number or not. -/
theorem Varint.eq_of_decode_encode {number value : Nat} {rest behind : List UInt8}
    (read : decode (encode number ++ rest) = .ok (value, behind)) :
    value = number ∧ behind = rest := by
  obtain ⟨digits, written, split⟩ := decode_eq_ok_iff.mp read
  obtain ⟨same, _, left⟩ := (spells_encode number).unique written.spells split
  exact ⟨same.symm, left.symm⟩

end Wire

namespace Schema

open Wire

variable {α β ε : Type}

/-- Nothing is left of the piece when something is read that starts with it. -/
def UsesUp (read : List UInt8 → Except ε (α × List UInt8)) (piece : List UInt8) : Prop :=
  ∀ ⦃rest : List UInt8⦄ ⦃value : α⦄ ⦃behind : List UInt8⦄,
    read (piece ++ rest) = .ok (value, behind) → behind = rest

theorem UsesUp.map {read : List UInt8 → Parsed α} {piece : List UInt8}
    (usesUp : UsesUp read piece) (change : α → β) :
    UsesUp (fun input => (read input).map change) piece := by
  intro rest value behind changed
  obtain ⟨_, first, _⟩ := Parsed.map_eq_ok_iff.mp changed
  exact usesUp first

theorem UsesUp.inField {read : List UInt8 → Parsed α} {piece : List UInt8}
    (usesUp : UsesUp read piece) (place : Place) :
    UsesUp (fun input => (read input).inField place) piece := by
  simpa only [UsesUp, Parsed.inField_eq_ok_iff] using usesUp

namespace ScalarType

theorem usesUp_decodeBytes (content : List UInt8) :
    UsesUp decodeBytes (encodeBytes content) := by
  intro rest value behind read
  rw [encodeBytes, List.append_assoc] at read
  obtain ⟨⟨length, others⟩, number, taken⟩ := bind_eq_ok_iff.mp read
  obtain ⟨rfl, rfl⟩ := Varint.eq_of_decode_encode number
  dsimp only [takeExactly] at taken
  split at taken
  next => cases taken
  next =>
    cases taken
    exact List.drop_left

theorem usesUp_decodeWord (word : UInt32) : UsesUp decodeWord (encodeWord word) := by
  intro rest value behind read
  rw [decodeWord_encodeWord] at read
  cases read
  rfl

/-- Scalars of every kind are used up. -/
theorem usesUp_decode (type : ScalarType) (value : type.Value) :
    UsesUp type.decode (type.encode value) := by
  intro rest result behind read
  cases type with
  | uint32 | int32 | bool =>
      obtain ⟨_, number, same⟩ := bind_eq_ok_iff.mp read
      cases same
      exact (Varint.eq_of_decode_encode number).2
  | fixed32 => exact usesUp_decodeWord value read
  | float =>
      obtain ⟨_, word, same⟩ := bind_eq_ok_iff.mp read
      cases same
      exact usesUp_decodeWord value.bits word
  | string =>
      obtain ⟨_, content, same⟩ := bind_eq_ok_iff.mp read
      dsimp only at same
      split at same
      next =>
        cases same
        exact usesUp_decodeBytes _ content
      next => cases same
  | bytes => exact usesUp_decodeBytes value read

theorem usesUp_readValue (type : ScalarType) (key : Key) (value : type.Value) :
    UsesUp (type.readValue key) (type.encode value) := by
  intro rest result behind read
  unfold readValue at read
  split at read
  next => cases read
  next => exact type.usesUp_decode value (Parsed.ofExcept_eq_ok_iff.mp read)

end ScalarType

/-- The body of a nested message is used up, since it is as long as its length says. -/
theorem usesUp_readNested {readBody : (depth stop : Nat) → List UInt8 → Parsed α}
    (confined : ∀ depth, BodyConfined (readBody depth)) (depth : Nat) (key : Key)
    (body : List UInt8) :
    UsesUp (readNested readBody depth key) (ScalarType.encodeBytes body) := by
  intro rest value behind read
  obtain ⟨_, digits, content, _, _, written, split, _⟩ := exists_of_readNested confined read
  rw [ScalarType.encodeBytes, List.append_assoc] at split
  obtain ⟨same, _, others⟩ := (Varint.spells_encode body.length).unique written.spells split
  exact (List.append_inj others same).2.symm

/-- A member is written as a key and as what the reader of that key uses up. -/
theorem Members.exists_usesUp (depth : Nat) : (members : Members) → members.tags.Nodup →
    (choice : members.Choice) →
    ∃ (key : Key) (body : List UInt8), members.encode choice = key.encode ++ body ∧
      key.tag ∈ members.tags ∧
      ∀ base, ∃ read : List UInt8 → Parsed members.Choice,
        (members.merge? depth key base = fun input => some (read input)) ∧ UsesUp read body
  | .scalar tag _ type _, _, .inl value => by
      have usesUp := type.usesUp_readValue ⟨tag, type.wireType⟩ value
      refine ⟨⟨tag, type.wireType⟩, type.encode value, rfl, List.mem_cons_self, fun base => ?_⟩
      refine ⟨_, ?_, usesUp.map Sum.inl⟩
      funext input
      exact if_pos rfl
  | .message tag _ type _, _, .inl value => by
      refine ⟨⟨tag, .lengthDelimited⟩, ScalarType.encodeBytes (type.encode value), rfl,
        List.mem_cons_self, fun base => ?_⟩
      have usesUp := usesUp_readNested
        (fun depth => type.bodyConfined_merge depth ((base.bind Sum.getLeft?).getD type.blank))
        depth ⟨tag, .lengthDelimited⟩ (type.encode value)
      refine ⟨_, ?_, usesUp.map Sum.inl⟩
      funext input
      exact if_pos rfl
  | .scalar tag _ _ rest, distinct, .inr choice
  | .message tag _ _ rest, distinct, .inr choice => by
      rw [Members.tags, List.nodup_cons] at distinct
      obtain ⟨key, body, encoded, member, reads⟩ := rest.exists_usesUp depth distinct.2 choice
      have other : key.tag ≠ tag := fun same => distinct.1 (same ▸ member)
      refine ⟨key, body, encoded, List.mem_cons_of_mem tag member, fun base => ?_⟩
      obtain ⟨read, found, usesUp⟩ := reads (base.bind Sum.getRight?)
      refine ⟨_, ?_, usesUp.map .inr⟩
      funext input
      rw [Members.merge?, if_neg other, found]
      rfl

/-- A field is used up when what follows its key is. -/
theorem usesUp_readField {depth : Nat} {merge? : Key → α → List UInt8 → Option (Parsed α)}
    {record : α} {key : Key} (valid : Key.ValidTag key.tag) {read : List UInt8 → Parsed α}
    (found : merge? key record = fun input => some (read input)) {body : List UInt8}
    (usesUp : UsesUp read body) :
    UsesUp (readField depth merge? record) (key.encode ++ body) := by
  intro rest value behind accepted
  rw [List.append_assoc, readField_written (Key.written_encode valid), found] at accepted
  exact usesUp accepted

/-- What is read of an input is read of any longer one, up to what was added. -/
theorem MessageType.fieldsRead_of_decode {name : String} {fields : Fields}
    {input : List UInt8} {record : fields.Record}
    (accepted : (MessageType.mk name fields).decode input = .ok record) (more : List UInt8) :
    FieldsRead (readField maxDepth fun key record input =>
      fields.merge? name maxDepth key record input) (fields.blank, input ++ more)
        (record, more) := by
  have selects (key : Key) (record : fields.Record) :
      Selects fun input => fields.merge? name maxDepth key record input :=
    fields.selects_merge? name maxDepth key record
  unfold MessageType.decode at accepted
  split at accepted
  next record rest merged =>
    cases accepted
    obtain ⟨reads, ended⟩ := fieldsRead_of_readFields
      (length_lt_of_readField fun key => selects key _) (Nat.le_refl _) merged
    obtain ⟨used, split, same⟩ :=
      reads.confined fun record => confined_readField fun key => selects key record
    obtain rfl := List.eq_nil_of_length_eq_zero ended
    have whole : input = used := split.trans (List.append_nil used)
    subst whole
    exact same more
  next => cases accepted

end Schema

end RadioSnapshot
