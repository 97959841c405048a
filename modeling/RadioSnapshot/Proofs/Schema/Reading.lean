import Mathlib.Logic.Relation
import RadioSnapshot.Proofs.Schema.Scalar

/-!
# Reading field after field

A message is read by reading one field after the other until the input is used up to a
given point. What a run of fields does to a record is stated as a relation between
records with the input that is left, so that runs compose, and `readFields` ends where
such a run ends.
-/

namespace RadioSnapshot.Schema

open Wire Relation

variable {α β γ : Type}

theorem Parsed.map_map (first : α → β) (second : β → γ) (parsed : Parsed α) :
    (parsed.map first).map second = parsed.map fun value => second (first value) := by
  cases parsed <;> rfl

theorem Parsed.map_eq_ok_iff {change : α → β} {parsed : Parsed α} {result : β}
    {rest : List UInt8} :
    parsed.map change = .ok (result, rest) ↔
      ∃ value, parsed = .ok (value, rest) ∧ change value = result := by
  constructor
  · intro changed
    cases parsed with
    | error error => cases changed
    | ok read =>
        cases changed
        exact ⟨read.1, rfl, rfl⟩
  · rintro ⟨value, rfl, rfl⟩
    rfl

theorem Parsed.inField_eq_ok_iff {place : Place} {parsed : Parsed α}
    {result : α × List UInt8} : parsed.inField place = .ok result ↔ parsed = .ok result := by
  cases parsed <;> simp [Parsed.inField]

theorem Parsed.ofExcept_eq_ok_iff {read : Except Fault (α × List UInt8)}
    {result : α × List UInt8} : Parsed.ofExcept read = .ok result ↔ read = .ok result := by
  cases read <;> simp [Parsed.ofExcept]

/-- One field is read, which uses up some of the input. -/
def FieldRead (read : α → List UInt8 → Parsed α) (before after : α × List UInt8) : Prop :=
  read before.1 before.2 = .ok after ∧ after.2.length < before.2.length

/-- Fields are read, one after the other. -/
abbrev FieldsRead (read : α → List UInt8 → Parsed α) : α × List UInt8 → α × List UInt8 → Prop :=
  ReflTransGen (FieldRead read)

theorem FieldsRead.length_le {read : α → List UInt8 → Parsed α}
    {before after : α × List UInt8} (reads : FieldsRead read before after) :
    after.2.length ≤ before.2.length := by
  induction reads with
  | refl => exact Nat.le_refl _
  | tail _ last ih => exact Nat.le_trans (Nat.le_of_lt last.2) ih

/-- Reading stops where the fields end. -/
theorem readFields_of_fieldsRead {read : α → List UInt8 → Parsed α}
    {before after : α × List UInt8} (reads : FieldsRead read before after) {budget : Nat}
    (enough : before.2.length ≤ budget) :
    readFields read after.2.length budget before.1 before.2 = .ok after := by
  induction reads using ReflTransGen.head_induction_on generalizing budget with
  | refl =>
      have finished : readFields.finish after.2.length after.1 after.2 = .ok after :=
        if_neg (Nat.lt_irrefl _)
      cases budget with
      | zero => exact finished
      | succ budget =>
          rw [readFields, if_neg (Nat.lt_irrefl _)]
          exact finished
  | head first rest ih =>
      have shorter := first.2
      have more := Nat.lt_of_le_of_lt (FieldsRead.length_le rest) shorter
      cases budget with
      | zero => omega
      | succ budget =>
          rw [readFields, if_pos more, first.1]
          exact ih (by omega)

/-- Where reading stops, the fields end. -/
theorem fieldsRead_of_readFields {read : α → List UInt8 → Parsed α}
    (shorter : ∀ {record input after}, read record input = .ok after →
      after.2.length < input.length)
    {stop budget : Nat} {record : α} {input : List UInt8} {after : α × List UInt8}
    (enough : input.length ≤ budget)
    (finished : readFields read stop budget record input = .ok after) :
    FieldsRead read (record, input) after ∧ after.2.length = stop := by
  have stopped {record : α} {input : List UInt8} (behind : input.length ≤ stop)
      (finished : readFields.finish stop record input = .ok after) :
      FieldsRead read (record, input) after ∧ after.2.length = stop := by
    unfold readFields.finish at finished
    split at finished
    next => cases finished
    next reached =>
      cases finished
      exact ⟨.refl, Nat.le_antisymm behind (Nat.le_of_not_lt reached)⟩
  induction budget generalizing record input with
  | zero => exact stopped (Nat.le_trans enough (Nat.zero_le stop)) finished
  | succ budget ih =>
      rw [readFields] at finished
      split at finished
      next more =>
        split at finished
        next next rest first =>
          have fewer : rest.length < input.length := shorter first
          obtain ⟨others, reached⟩ := ih (by omega) finished
          exact ⟨.head ⟨first, fewer⟩ others, reached⟩
        next => cases finished
      next behind => exact stopped (Nat.le_of_not_lt behind) finished

/-- Behind its key a field is read as its message reads it, or else passed over. -/
theorem readField_written {depth : Nat} {merge? : Key → α → List UInt8 → Option (Parsed α)}
    {key : Key} {head : List UInt8} (written : key.Written head) (record : α)
    (rest : List UInt8) :
    readField depth merge? record (head ++ rest) =
      (merge? key record rest).getD
        (.ofExcept ((skipValue depth key rest).map (record, ·))) := by
  simp only [readField, Key.decode_written written]
  cases merge? key record rest <;> rfl

/-- A field with a valid key is read as its message reads what follows the key. -/
theorem FieldRead.of_merge? {depth : Nat}
    {merge? : Key → α → List UInt8 → Option (Parsed α)} {key : Key}
    (valid : Key.ValidTag key.tag) {before after : α} {body rest : List UInt8}
    (merged : merge? key before (body ++ rest) = some (.ok (after, rest))) :
    FieldRead (readField depth merge?) (before, key.encode ++ body ++ rest) (after, rest) := by
  constructor
  · rw [List.append_assoc, readField_written (Key.written_encode valid), merged]
    rfl
  · have positive := key.encodedLength_pos
    simp only [List.length_append, Key.length_encode]
    omega

/-- A nested message is read by reading its body up to what follows it. -/
theorem readNested_written (readBody : Nat → Nat → List UInt8 → Parsed α) (depth : Nat)
    {key : Key} (layout : key.wireType = .lengthDelimited) {digits body : List UInt8}
    (written : Varint.Written body.length digits) (rest : List UInt8) :
    readNested readBody (depth + 1) key (digits ++ (body ++ rest)) =
      readBody depth rest.length (body ++ rest) := by
  have enough : ¬ (body ++ rest).length < body.length := by
    rw [List.length_append]
    omega
  have stop : (body ++ rest).length - body.length = rest.length := by
    rw [List.length_append]
    omega
  simp only [readNested, Key.expect, if_pos layout, Varint.decode_written written,
    if_neg enough, stop]

theorem readNested_encodeBytes (readBody : Nat → Nat → List UInt8 → Parsed α)
    (depth tag : Nat) {body : List UInt8} (small : body.length < Varint.bound)
    (rest : List UInt8) :
    readNested readBody (depth + 1) ⟨tag, .lengthDelimited⟩
        (ScalarType.encodeBytes body ++ rest) =
      readBody depth rest.length (body ++ rest) := by
  rw [ScalarType.encodeBytes, List.append_assoc]
  exact readNested_written readBody depth rfl (Varint.written_encode small) rest

end RadioSnapshot.Schema
