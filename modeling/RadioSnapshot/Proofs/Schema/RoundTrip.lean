import RadioSnapshot.Proofs.Schema.Extension
import RadioSnapshot.Proofs.Schema.Merging
import RadioSnapshot.Proofs.Schema.Reading

/-!
# Records are read as they were written

The fields of a record are written one after the other, and each is read back by the
field that wrote it as long as no two fields share a tag. Fields of other tags that were
put in between are passed over. Reading the encoding of a record, extended or not, on top
of another one therefore merges the two; read into a blank record, it gives the record
back.
-/

namespace RadioSnapshot.Schema

open Wire Relation

mutual

/-- Messages of this type can be read back with so many levels of nesting to go: the tags
of every message on the way are valid and differ from each other, and those that are listed
with a choice are the tags of its members. -/
def MessageType.isReadable : MessageType → (depth : Nat) → Bool
  | .mk _ fields, depth =>
      decide fields.tags.Nodup && fields.tags.all (fun tag => decide (Key.ValidTag tag)) &&
        fields.isNestedReadable depth

/-- The messages nested in these fields can be read back. -/
def Fields.isNestedReadable : Fields → (depth : Nat) → Bool
  | .done, _ => true
  | .plain _ _ _ _ rest, depth => rest.isNestedReadable depth
  | .optional _ _ _ rest, depth => rest.isNestedReadable depth
  | .byteStrings _ _ rest, depth => rest.isNestedReadable depth
  | .message _ _ _ _, 0 => false
  | .message _ _ type rest, depth + 1 =>
      type.isReadable depth && rest.isNestedReadable (depth + 1)
  | .choice tags _ _ members rest, depth =>
      decide (tags = members.tags) && members.isNestedReadable depth &&
        rest.isNestedReadable depth

def Members.isNestedReadable : Members → (depth : Nat) → Bool
  | .done, _ => true
  | .scalar _ _ _ rest, depth => rest.isNestedReadable depth
  | .message _ _ _ _, 0 => false
  | .message _ _ type rest, depth + 1 =>
      type.isReadable depth && rest.isNestedReadable (depth + 1)

end

/-- A nested message that can be read back is one level down. -/
theorem Fields.readable_of_message {tag : Nat} {name : String} {type : MessageType}
    {others : Fields} {depth : Nat}
    (nested : (Fields.message tag name type others).isNestedReadable depth = true) :
    ∃ fewer, depth = fewer + 1 ∧ type.isReadable fewer = true ∧
      others.isNestedReadable depth = true := by
  cases depth with
  | zero => simp [isNestedReadable] at nested
  | succ fewer =>
      rw [isNestedReadable, Bool.and_eq_true] at nested
      exact ⟨fewer, rfl, nested⟩

theorem Members.readable_of_message {tag : Nat} {name : String} {type : MessageType}
    {others : Members} {depth : Nat}
    (nested : (Members.message tag name type others).isNestedReadable depth = true) :
    ∃ fewer, depth = fewer + 1 ∧ type.isReadable fewer = true ∧
      others.isNestedReadable depth = true := by
  cases depth with
  | zero => simp [isNestedReadable] at nested
  | succ fewer =>
      rw [isNestedReadable, Bool.and_eq_true] at nested
      exact ⟨fewer, rfl, nested⟩

/-- Every tag of a choice's members is answered to, so that a choice which lists just these
never asks its members in vain. -/
theorem Members.isSome_merge? {depth : Nat} {key : Key} : {members : Members} →
    key.tag ∈ members.tags → (value : Option members.Choice) → (input : List UInt8) →
    (members.merge? depth key value input).isSome = true
  | .done, member, _, _ => absurd member List.not_mem_nil
  | .scalar _ _ _ rest, member, value, input
  | .message _ _ _ rest, member, value, input => by
      rw [Members.tags, List.mem_cons] at member
      rw [Members.merge?]
      split
      next => rfl
      next other =>
        rw [Option.isSome_map]
        exact rest.isSome_merge? (member.resolve_left other) _ input

/-- A key with a tag of its own is left to the fields that have the tag. -/
theorem Fields.merge?_eq_none {owner : String} {depth : Nat} {key : Key} :
    {fields : Fields} → key.tag ∉ fields.tags → (record : fields.Record) →
    (input : List UInt8) → fields.merge? owner depth key record input = none
  | .done, _, _, _ => rfl
  | .plain _ _ _ _ rest, other, (_, others), input
  | .optional _ _ _ rest, other, (_, others), input
  | .byteStrings _ _ rest, other, (_, others), input
  | .message _ _ _ rest, other, (_, others), input => by
      rw [Fields.tags, List.mem_cons, not_or] at other
      rw [Fields.merge?, if_neg other.1, rest.merge?_eq_none other.2]
      rfl
  | .choice tags _ _ members rest, other, (value, others), input => by
      rw [Fields.tags, List.mem_append, not_or, ← List.contains_iff_mem] at other
      rw [Fields.merge?, if_neg other.1, rest.merge?_eq_none other.2]
      rfl

section

variable {α : Type} {owner : String} {depth : Nat}
  {merge? : Key → α → List UInt8 → Option (Parsed α)}

/-- Fields that a message leaves alone are passed over. -/
theorem Undeclared.fieldsRead {declared : List Nat} {bytes : List UInt8}
    (undeclared : Undeclared declared depth bytes)
    (ignored : ∀ (key : Key) (record : α) (input : List UInt8),
      key.tag ∉ declared → merge? key record input = none)
    (record : α) (rest : List UInt8) :
    FieldsRead (readField depth merge?) (record, bytes ++ rest) (record, rest) := by
  induction undeclared with
  | nil => exact .refl
  | @cons key head body others written value _ ih =>
      obtain ⟨other, wellFormed⟩ := value
      refine .head ⟨?_, ?_⟩ ih
      · have passed : skipValue depth key (body ++ (others ++ rest)) = .ok (others ++ rest) :=
          skipValue_eq_ok_iff.mpr ⟨body, wellFormed, rfl⟩
        rw [List.append_assoc, List.append_assoc, readField_written written,
          ignored _ _ _ other, passed]
        rfl
      · have positive := List.length_pos_of_ne_nil written.ne_nil
        simp only [List.length_append]
        omega

/-- These fields are part of a whole: a key with one of their tags is read in the whole as
it is read by them. -/
structure Fields.ReadsIn (fields : Fields) (owner : String) (depth : Nat)
    (merge? : Key → α → List UInt8 → Option (Parsed α)) (embed : fields.Record → α) :
    Prop where
  distinct : fields.tags.Nodup
  valid : ∀ tag ∈ fields.tags, Key.ValidTag tag
  merge?_embed : ∀ (key : Key) (record : fields.Record) (input : List UInt8),
    key.tag ∈ fields.tags →
    merge? key (embed record) input =
      (fields.merge? owner depth key record input).map (Parsed.map embed)

/-- All fields of a message are a whole of their own. -/
theorem Fields.ReadsIn.refl {fields : Fields} (distinct : fields.tags.Nodup)
    (valid : ∀ tag ∈ fields.tags, Key.ValidTag tag) :
    fields.ReadsIn owner depth
      (fun key record input => fields.merge? owner depth key record input) id := by
  refine ⟨distinct, valid, ?_⟩
  intro key record input _
  have unchanged : Parsed.map (id : fields.Record → fields.Record) = id := by
    funext parsed
    cases parsed <;> rfl
  rw [unchanged, Option.map_id]
  rfl

/-- Behind the first of the fields, those that have the tags in front, the others are part
of the whole, whatever the first have read. -/
theorem Fields.ReadsIn.others {fields others : Fields} {embed : fields.Record → α}
    {embedOthers : others.Record → fields.Record}
    (readsIn : fields.ReadsIn owner depth merge? embed) (front : List Nat)
    (split : fields.tags = front ++ others.tags)
    (passed : ∀ (key : Key) (record : others.Record) (input : List UInt8),
      key.tag ∉ front →
      fields.merge? owner depth key (embedOthers record) input =
        (others.merge? owner depth key record input).map (Parsed.map embedOthers)) :
    others.ReadsIn owner depth merge? fun record => embed (embedOthers record) := by
  obtain ⟨distinct, valid, merge?_embed⟩ := readsIn
  rw [split] at distinct valid merge?_embed
  obtain ⟨_, othersDistinct, disjoint⟩ := List.nodup_append.mp distinct
  refine ⟨othersDistinct, fun tag member => valid tag (List.mem_append_right front member), ?_⟩
  intro key record input member
  have absent : key.tag ∉ front := fun inFront => disjoint _ inFront _ member rfl
  rw [merge?_embed key _ input (List.mem_append_right front member),
    passed key record input absent, Option.map_map]
  congr 1
  funext parsed
  exact parsed.map_map embedOthers embed

/-- The field that has the tag of a key reads what follows the key. -/
theorem Fields.ReadsIn.fieldRead {fields : Fields} {embed : fields.Record → α}
    (readsIn : fields.ReadsIn owner depth merge? embed) {key : Key}
    (member : key.tag ∈ fields.tags) {before after : fields.Record}
    {body rest : List UInt8}
    (merged : fields.merge? owner depth key before (body ++ rest) = some (.ok (after, rest))) :
    FieldRead (readField depth merge?) (embed before, key.encode ++ body ++ rest)
      (embed after, rest) := by
  apply FieldRead.of_merge? (readsIn.valid _ member)
  rw [readsIn.merge?_embed key before (body ++ rest) member, merged]
  rfl

/-- A reader of fields that passes over these bytes. -/
def PassesOver (depth : Nat) (merge? : Key → α → List UInt8 → Option (Parsed α))
    (foreign : List UInt8 → Prop) : Prop :=
  ∀ {front : List UInt8}, foreign front → ∀ (record : α) (rest : List UInt8),
    FieldsRead (readField depth merge?) (record, front ++ rest) (record, rest)

variable {foreign : List UInt8 → Prop}

/-- Behind what is passed over, a field reads what follows its key. -/
theorem Fields.ReadsIn.fieldsRead_piece {fields : Fields} {embed : fields.Record → α}
    (readsIn : fields.ReadsIn owner depth merge? embed)
    (passes : PassesOver depth merge? foreign) {front : List UInt8} (before : foreign front)
    {key : Key} (member : key.tag ∈ fields.tags) {base later : fields.Record}
    {body rest : List UInt8}
    (merged : fields.merge? owner depth key base (body ++ rest) = some (.ok (later, rest)))
    {after : α × List UInt8}
    (following : FieldsRead (readField depth merge?) (embed later, rest) after) :
    FieldsRead (readField depth merge?)
      (embed base, front ++ (key.encode ++ body ++ rest)) after :=
  (passes before (embed base) _).trans (.head (readsIn.fieldRead member merged) following)

/-- Byte strings are read one by one, behind those already there. -/
theorem Fields.ReadsIn.fieldsRead_byteStrings {tag : Nat} {name : String} {others : Fields}
    {embed : (Fields.byteStrings tag name others).Record → α}
    (readsIn : (Fields.byteStrings tag name others).ReadsIn owner depth merge? embed)
    (passes : PassesOver depth merge? foreign) {behind : List UInt8 → Prop}
    {base values : List (List UInt8)} {record : others.Record} {bytes rest : List UInt8}
    (extended : Interspersed foreign behind
      (values.map (ScalarType.bytes.encodeField tag)) bytes)
    (small : bytes.length < Varint.bound) {after : α × List UInt8}
    (following : ∀ last, behind last → last.length < Varint.bound →
      FieldsRead (readField depth merge?) (embed (base ++ values, record), last ++ rest) after) :
    FieldsRead (readField depth merge?) (embed (base, record), bytes ++ rest) after := by
  induction values generalizing base bytes with
  | nil =>
      rw [List.append_nil] at following
      exact following bytes extended small
  | cons value values ih =>
      obtain ⟨front, last, before, extended, rfl⟩ := extended
      rw [ScalarType.encodeField] at small ⊢
      simp only [List.length_append] at small
      have next := @ih (base ++ [value]) last extended (by omega)
      rw [List.append_assoc base, List.singleton_append] at next
      rw [List.append_assoc front, List.append_assoc _ last]
      refine readsIn.fieldsRead_piece passes before ?_ ?_ (next following)
      · exact List.mem_cons_self
      · rw [Fields.merge?, if_pos rfl, ScalarType.readValue_encode _ _ _ (by omega)]
        rfl

end

mutual

/-- The encoding of a record, extended or not, read on top of another record, is merged
into it. -/
theorem MessageType.merge_extended : (type : MessageType) → {depth : Nat} →
    type.isReadable depth = true → (base : type.Record) → {later : type.Record} →
    {bytes rest : List UInt8} → type.Extended depth later bytes →
    bytes.length < Varint.bound →
    type.merge depth rest.length base (bytes ++ rest) = .ok (type.merged base later, rest)
  | .mk name fields, depth, readable, base, later, bytes, rest, extended, small => by
      simp only [MessageType.isReadable, Bool.and_eq_true, decide_eq_true_eq,
        List.all_eq_true] at readable
      obtain ⟨⟨distinct, valid⟩, nested⟩ := readable
      have whole : fields.ReadsIn name depth
          (fun key record input => fields.merge? name depth key record input) id :=
        .refl distinct valid
      have passes : PassesOver depth
          (fun key record input => fields.merge? name depth key record input)
          (Undeclared fields.tags depth) := fun undeclared =>
        undeclared.fieldsRead fun key record input other =>
          Fields.merge?_eq_none other record input
      exact readFields_of_fieldsRead
        (fields.fieldsRead_extended nested whole passes base extended small) (Nat.le_refl _)

/-- The fields of a record are read one after the other. -/
theorem Fields.fieldsRead_extended : (fields : Fields) → {owner : String} → {depth : Nat} →
    fields.isNestedReadable depth = true → {α : Type} →
    {merge? : Key → α → List UInt8 → Option (Parsed α)} → {embed : fields.Record → α} →
    fields.ReadsIn owner depth merge? embed → {foreign : List UInt8 → Prop} →
    PassesOver depth merge? foreign → (base : fields.Record) → {later : fields.Record} →
    {bytes rest : List UInt8} → fields.Extended foreign depth later bytes →
    bytes.length < Varint.bound →
    FieldsRead (readField depth merge?) (embed base, bytes ++ rest)
      (embed (fields.merged base later), rest)
  | .done, _, _, _, _, _, embed, _, _, passes, base, _, _, rest, extended, _ =>
      passes extended (embed base) rest
  | .plain visibility tag name type others, owner, depth, nested, α, merge?, embed, readsIn,
      foreign, passes, (value, record), (later, laterRecord), bytes, rest, extended, small => by
      -- The fields behind this one are read as part of the whole, whatever it holds by then.
      have behind (value : type.Value) :
          others.ReadsIn owner depth merge? fun record => embed (value, record) :=
        readsIn.others [tag] rfl fun key record input absent => by
          rw [Fields.merge?, if_neg (List.mem_singleton.not.mp absent)]
      rw [Fields.Extended] at extended
      rw [Fields.merged]
      by_cases left : type.isBlank later = true
      · rw [if_pos left] at extended ⊢
        exact others.fieldsRead_extended nested (behind value) passes record extended small
      · rw [if_neg left] at extended ⊢
        obtain ⟨front, last, before, extended, rfl⟩ := extended
        rw [ScalarType.encodeField] at small ⊢
        simp only [List.length_append] at small
        rw [List.append_assoc front, List.append_assoc _ last]
        refine readsIn.fieldsRead_piece passes before ?_ ?_
          (others.fieldsRead_extended nested (behind later) passes record extended (by omega))
        · exact List.mem_cons_self
        · rw [Fields.merge?, if_pos rfl, ScalarType.readValue_encode _ _ _ (by omega)]
          rfl
  | .optional tag name type others, owner, depth, nested, α, merge?, embed, readsIn,
      foreign, passes, (value, record), (later, laterRecord), bytes, rest, extended, small => by
      have behind (value : Option type.Value) :
          others.ReadsIn owner depth merge? fun record => embed (value, record) :=
        readsIn.others [tag] rfl fun key record input absent => by
          rw [Fields.merge?, if_neg (List.mem_singleton.not.mp absent)]
      rw [Fields.Extended] at extended
      rw [Fields.merged]
      cases later with
      | none => exact others.fieldsRead_extended nested (behind value) passes record extended small
      | some later =>
          obtain ⟨front, last, before, extended, rfl⟩ := extended
          rw [ScalarType.encodeField] at small ⊢
          simp only [List.length_append] at small
          rw [List.append_assoc front, List.append_assoc _ last]
          refine readsIn.fieldsRead_piece passes before ?_ ?_
            (others.fieldsRead_extended nested (behind (some later)) passes record extended
              (by omega))
          · exact List.mem_cons_self
          · rw [Fields.merge?, if_pos rfl, ScalarType.readValue_encode _ _ _ (by omega)]
            rfl
  | .byteStrings tag name others, owner, depth, nested, α, merge?, embed, readsIn,
      foreign, passes, (values, record), (laterValues, laterRecord), bytes, rest, extended,
      small => by
      have behind (values : List (List UInt8)) :
          others.ReadsIn owner depth merge? fun record => embed (values, record) :=
        readsIn.others [tag] rfl fun key record input absent => by
          rw [Fields.merge?, if_neg (List.mem_singleton.not.mp absent)]
      rw [Fields.Extended] at extended
      rw [Fields.merged]
      refine readsIn.fieldsRead_byteStrings passes extended small ?_
      intro last extended small
      exact others.fieldsRead_extended nested (behind _) passes record extended small
  | .message tag name type others, owner, depth, nested, α, merge?, embed, readsIn,
      foreign, passes, (value, record), (later, laterRecord), bytes, rest, extended, small => by
      obtain ⟨fewer, rfl, readable, nestedOthers⟩ := Fields.readable_of_message nested
      have behind (value : Option type.Record) :
          others.ReadsIn owner (fewer + 1) merge? fun record => embed (value, record) :=
        readsIn.others [tag] rfl fun key record input absent => by
          rw [Fields.merge?, if_neg (List.mem_singleton.not.mp absent)]
      rw [Fields.Extended] at extended
      rw [Fields.merged]
      obtain ⟨pieces, own, extended⟩ := extended
      cases later with
      | none =>
          subst own
          exact others.fieldsRead_extended nestedOthers (behind value) passes record extended
            small
      | some later =>
          obtain ⟨body, extendedBody, rfl⟩ := own
          obtain ⟨front, last, before, extended, rfl⟩ := extended
          simp only [encodeNested, ScalarType.encodeBytes, List.length_append] at small
          rw [encodeNested, List.append_assoc front, List.append_assoc _ last]
          refine readsIn.fieldsRead_piece passes before ?_ ?_
            (others.fieldsRead_extended nestedOthers (behind (some _)) passes record extended
              (by omega))
          · exact List.mem_cons_self
          · rw [Fields.merge?, if_pos rfl, readNested_encodeBytes _ _ _ (by omega),
              type.merge_extended readable _ extendedBody (by omega)]
            rfl
  | .choice tags name labelling members others, owner, depth, nested, α, merge?, embed, readsIn,
      foreign, passes, (value, record), (later, laterRecord), bytes, rest, extended, small => by
      simp only [Fields.isNestedReadable, Bool.and_eq_true, decide_eq_true_eq] at nested
      obtain ⟨⟨rfl, nestedMembers⟩, nestedOthers⟩ := nested
      have behind (value : Option members.Choice) :
          others.ReadsIn owner depth merge? fun record => embed (value, record) :=
        readsIn.others members.tags rfl fun key record input absent => by
          rw [← List.contains_iff_mem] at absent
          rw [Fields.merge?, if_neg absent]
      have distinct : members.tags.Nodup := (List.nodup_append.mp readsIn.distinct).1
      rw [Fields.Extended] at extended
      rw [Fields.merged]
      obtain ⟨pieces, own, extended⟩ := extended
      cases later with
      | none =>
          subst own
          exact others.fieldsRead_extended nestedOthers (behind value) passes record extended small
      | some later =>
          obtain ⟨piece, extendedPiece, rfl⟩ := own
          obtain ⟨front, last, before, extended, rfl⟩ := extended
          simp only [List.length_append] at small
          obtain ⟨key, body, rfl, member, merged⟩ :=
            members.merge?_extended distinct nestedMembers value extendedPiece (by omega)
          rw [List.append_assoc front, List.append_assoc _ last]
          refine readsIn.fieldsRead_piece passes before ?_ ?_
            (others.fieldsRead_extended nestedOthers (behind (some _)) passes record extended
              (by omega))
          · exact List.mem_append_left others.tags member
          · rw [Fields.merge?, if_pos (List.contains_iff_mem.mpr member), merged]
            rfl

/-- A member is written as one field, which is read on top of an earlier member. -/
theorem Members.merge?_extended : (members : Members) → {depth : Nat} →
    members.tags.Nodup → members.isNestedReadable depth = true →
    (base : Option members.Choice) → {later : members.Choice} → {piece : List UInt8} →
    members.Extended depth later piece → piece.length < Varint.bound →
    ∃ (key : Key) (body : List UInt8), piece = key.encode ++ body ∧
      key.tag ∈ members.tags ∧
      ∀ rest, members.merge? depth key base (body ++ rest) =
        some (.ok (members.merged base later, rest))
  | .scalar tag name type others, depth, distinct, nested, base, .inl later, _, extended,
      small => by
      rw [extended, ScalarType.encodeField, List.length_append] at small
      refine ⟨⟨tag, type.wireType⟩, type.encode later, extended, List.mem_cons_self, ?_⟩
      intro rest
      rw [Members.merge?, if_pos rfl, ScalarType.readValue_encode _ _ _ (by omega)]
      rfl
  | .scalar tag name type others, depth, distinct, nested, base, .inr later, _, extended,
      small => by
      rw [Members.tags, List.nodup_cons] at distinct
      obtain ⟨key, body, encoded, member, merged⟩ :=
        others.merge?_extended distinct.2 nested (base.bind Sum.getRight?) extended small
      have other : key.tag ≠ tag := fun same => distinct.1 (same ▸ member)
      refine ⟨key, body, encoded, List.mem_cons_of_mem tag member, ?_⟩
      intro rest
      rw [Members.merge?, if_neg other, merged]
      rfl
  | .message tag name type others, depth, distinct, nested, base, .inl later, _, extended,
      small => by
      obtain ⟨fewer, rfl, readable, _⟩ := Members.readable_of_message nested
      obtain ⟨body, extendedBody, rfl⟩ := extended
      simp only [encodeNested, ScalarType.encodeBytes, List.length_append] at small
      refine ⟨⟨tag, .lengthDelimited⟩, ScalarType.encodeBytes body, rfl,
        List.mem_cons_self, ?_⟩
      intro rest
      rw [Members.merge?, if_pos rfl, readNested_encodeBytes _ _ _ (by omega),
        type.merge_extended readable _ extendedBody (by omega)]
      rfl
  | .message tag name type others, depth, distinct, nested, base, .inr later, _, extended,
      small => by
      rw [Members.tags, List.nodup_cons] at distinct
      obtain ⟨_, _, _, nestedOthers⟩ := Members.readable_of_message nested
      obtain ⟨key, body, encoded, member, merged⟩ :=
        others.merge?_extended distinct.2 nestedOthers (base.bind Sum.getRight?) extended small
      have other : key.tag ≠ tag := fun same => distinct.1 (same ▸ member)
      refine ⟨key, body, encoded, List.mem_cons_of_mem tag member, ?_⟩
      intro rest
      rw [Members.merge?, if_neg other, merged]
      rfl

end

/-- What is written for a record is merged into the record that it is read on top of. -/
theorem MessageType.merge_encode {type : MessageType} {depth : Nat}
    (readable : type.isReadable depth = true) (base later : type.Record)
    {rest : List UInt8} (small : (type.encode later).length < Varint.bound) :
    type.merge depth rest.length base (type.encode later ++ rest) =
      .ok (type.merged base later, rest) :=
  type.merge_extended readable base (type.extended_encode depth later) small

/-- An extended encoding is read as the record, but for its negative zeros. -/
theorem MessageType.decode_extended {type : MessageType}
    (readable : type.isReadable maxDepth = true) {record : type.Record}
    {bytes : List UInt8} (extended : type.Extended maxDepth record bytes)
    (small : bytes.length < Varint.bound) :
    type.decode bytes = .ok (type.withoutNegativeZeros record) := by
  have merged := @MessageType.merge_extended type maxDepth readable type.blank record bytes []
    extended small
  rw [List.append_nil, List.length_nil, type.merged_blank] at merged
  simp only [decode, merged]

/-- What is written for a record is read as that record, but for its negative zeros. -/
theorem MessageType.decode_encode {type : MessageType}
    (readable : type.isReadable maxDepth = true) {record : type.Record}
    (small : (type.encode record).length < Varint.bound) :
    type.decode (type.encode record) = .ok (type.withoutNegativeZeros record) :=
  decode_extended readable (type.extended_encode maxDepth record) small

end RadioSnapshot.Schema
