import RadioSnapshot.Proofs.Schema.Reading
import RadioSnapshot.Proofs.Wire.Skip

/-!
# Values end where they end

What is read is decided by the bytes that it takes off the input: a reader that comes to
a value comes to the same value, and leaves what follows alone, whatever it is that
follows. This holds of numbers, keys and scalars, of what is passed over, and of whole
messages, although their readers see all of the input that is left.
-/

namespace RadioSnapshot.Schema

open Wire Relation

variable {α β ε : Type}

/-- What is read depends on nothing behind it. -/
def Confined (read : List UInt8 → Except ε (α × List UInt8)) : Prop :=
  ∀ ⦃input : List UInt8⦄ ⦃value : α⦄ ⦃rest : List UInt8⦄, read input = .ok (value, rest) →
    ∃ used, input = used ++ rest ∧ ∀ other, read (used ++ other) = .ok (value, other)

/-- One reader may go on where another has stopped. -/
theorem Confined.bind {first : List UInt8 → Except ε (α × List UInt8)}
    {second : α × List UInt8 → Except ε (β × List UInt8)} (confinedFirst : Confined first)
    (confinedSecond : ∀ value, Confined fun input => second (value, input)) :
    Confined fun input => first input >>= second := by
  intro input value rest read
  obtain ⟨⟨middle, behind⟩, readFirst, readSecond⟩ := bind_eq_ok_iff.mp read
  obtain ⟨used, rfl, same⟩ := confinedFirst readFirst
  obtain ⟨more, rfl, sameSecond⟩ := confinedSecond middle readSecond
  refine ⟨used ++ more, (List.append_assoc used more rest).symm, ?_⟩
  intro other
  rw [List.append_assoc]
  exact bind_eq_ok_iff.mpr ⟨_, same (more ++ other), sameSecond other⟩

/-- Nothing is read for a value that is there already. -/
theorem confined_ok (value : α) :
    Confined fun input => (Except.ok (value, input) : Except ε (α × List UInt8)) := by
  intro input other rest read
  cases read
  exact ⟨[], rfl, fun _ => rfl⟩

theorem confined_error (fault : ε) :
    Confined fun _ => (Except.error fault : Except ε (α × List UInt8)) := by
  intro input value rest read
  cases read

theorem confined_varint : Confined Varint.decode := by
  intro input value rest read
  obtain ⟨digits, written, split⟩ := Varint.decode_eq_ok_iff.mp read
  exact ⟨digits, split, Varint.decode_written written⟩

theorem confined_takeExactly (length : Nat) : Confined (takeExactly length) := by
  intro input content rest read
  rw [takeExactly] at read
  split at read
  next => cases read
  next enough =>
    cases read
    refine ⟨input.take length, (List.take_append_drop length input).symm, ?_⟩
    intro other
    have whole : (input.take length).length = length :=
      List.length_take_of_le (Nat.le_of_not_lt enough)
    have fits : ¬ (input.take length ++ other).length < length := by
      rw [List.length_append, whole]
      omega
    rw [takeExactly, if_neg fits, List.take_left' whole, List.drop_left' whole]

namespace ScalarType

theorem confined_decodeBytes : Confined decodeBytes :=
  confined_varint.bind confined_takeExactly

theorem confined_decodeWord : Confined decodeWord := by
  intro input word rest read
  match input, read with
  | first :: second :: third :: fourth :: _, read =>
      cases read
      exact ⟨[first, second, third, fourth], rfl, fun _ => rfl⟩

/-- Scalars of every kind are confined. -/
theorem confined_decode (type : ScalarType) : Confined type.decode := by
  cases type with
  | uint32 => exact confined_varint.bind fun value => confined_ok (UInt32.ofNat value)
  | int32 => exact confined_varint.bind fun value => confined_ok (Int32.ofNat value)
  | bool => exact confined_varint.bind fun value => confined_ok (value != 0)
  | fixed32 => exact confined_decodeWord
  | float => exact confined_decodeWord.bind fun word => confined_ok (Binary32.mk word)
  | string =>
      refine confined_decodeBytes.bind fun content => ?_
      dsimp only
      cases ofUtf8? content with
      | some text => exact confined_ok text
      | none => exact confined_error _
  | bytes => exact confined_decodeBytes

end ScalarType

/-- So are the values that are passed over. -/
theorem confined_skipValue (depth : Nat) (key : Key) (record : α) :
    Confined fun input => (skipValue depth key input).map (record, ·) := by
  intro input value rest read
  cases skipped : skipValue depth key input with
  | error fault => simp [skipped, Except.map] at read
  | ok behind =>
      simp only [skipped, Except.map] at read
      cases read
      obtain ⟨body, wellFormed, split⟩ := skipValue_eq_ok_iff.mp skipped
      refine ⟨body, split, ?_⟩
      intro other
      dsimp only
      rw [skipValue_eq_ok_iff.mpr ⟨body, wellFormed, rfl⟩]
      rfl

theorem Confined.map {read : List UInt8 → Parsed α} (confined : Confined read)
    (change : α → β) : Confined fun input => (read input).map change := by
  intro input value rest changed
  obtain ⟨before, first, rfl⟩ := Parsed.map_eq_ok_iff.mp changed
  obtain ⟨used, split, same⟩ := confined first
  exact ⟨used, split, fun other => Parsed.map_eq_ok_iff.mpr ⟨before, same other, rfl⟩⟩

theorem Confined.inField {read : List UInt8 → Parsed α} (confined : Confined read)
    (place : Place) : Confined fun input => (read input).inField place := by
  simpa only [Confined, Parsed.inField_eq_ok_iff] using confined

theorem Confined.ofExcept {read : List UInt8 → Except Fault (α × List UInt8)}
    (confined : Confined read) : Confined fun input => Parsed.ofExcept (read input) := by
  simpa only [Confined, Parsed.ofExcept_eq_ok_iff] using confined

theorem ScalarType.confined_readValue (type : ScalarType) (key : Key) :
    Confined (type.readValue key) := by
  unfold ScalarType.readValue
  cases key.expect type.wireType with
  | error fault => exact confined_error _
  | ok _ => exact type.confined_decode.ofExcept

/-- The body of a message ends at the position that is given for it, and what is read
depends on nothing behind that. -/
def BodyConfined (read : (stop : Nat) → List UInt8 → Parsed α) : Prop :=
  ∀ ⦃stop : Nat⦄ ⦃input : List UInt8⦄ ⦃value : α⦄ ⦃rest : List UInt8⦄,
    read stop input = .ok (value, rest) →
    ∃ used, input = used ++ rest ∧ rest.length = stop ∧
      ∀ other, read other.length (used ++ other) = .ok (value, other)

/-- A nested message is read from a length and so many bytes, which are a body of their
own. -/
theorem exists_of_readNested {readBody : (depth stop : Nat) → List UInt8 → Parsed α}
    (confined : ∀ depth, BodyConfined (readBody depth)) {depth : Nat} {key : Key}
    {input : List UInt8} {value : α} {rest : List UInt8}
    (read : readNested readBody depth key input = .ok (value, rest)) :
    ∃ fewer digits body, depth = fewer + 1 ∧ key.wireType = .lengthDelimited ∧
      Varint.Written body.length digits ∧ input = digits ++ (body ++ rest) ∧
      ∀ other, readBody fewer other.length (body ++ other) = .ok (value, other) := by
  unfold readNested at read
  split at read
  next => cases read
  next => cases read
  next fewer layout =>
    split at read
    next => cases read
    next length behind decoded =>
      split at read
      next => cases read
      next enough =>
        obtain ⟨digits, written, rfl⟩ := Varint.decode_eq_ok_iff.mp decoded
        obtain ⟨body, rfl, stopped, same⟩ := confined fewer read
        have whole : body.length = length := by
          rw [List.length_append] at stopped enough
          omega
        exact ⟨fewer, digits, body, rfl, Key.expect_eq_ok_iff.mp layout, whole ▸ written, rfl, same⟩

theorem confined_readNested {readBody : (depth stop : Nat) → List UInt8 → Parsed α}
    (confined : ∀ depth, BodyConfined (readBody depth)) (depth : Nat) (key : Key) :
    Confined (readNested readBody depth key) := by
  intro input value rest read
  obtain ⟨fewer, digits, body, rfl, layout, written, rfl, same⟩ :=
    exists_of_readNested confined read
  refine ⟨digits ++ body, (List.append_assoc digits body rest).symm, fun other => ?_⟩
  rw [List.append_assoc, readNested_written readBody fewer layout written]
  exact same other

/-- Only some keys have a reader for what follows them, and that one is confined. -/
def Selects (read? : List UInt8 → Option (Parsed α)) : Prop :=
  (read? = fun _ => none) ∨ ∃ read, Confined read ∧ read? = fun input => some (read input)

theorem Selects.map {read? : List UInt8 → Option (Parsed α)} (selects : Selects read?)
    {change : Parsed α → Parsed β}
    (confined : ∀ {read : List UInt8 → Parsed α}, Confined read →
      Confined fun input => change (read input)) :
    Selects fun input => (read? input).map change := by
  rcases selects with rfl | ⟨read, confinedRead, rfl⟩
  · exact .inl rfl
  · exact .inr ⟨_, confined confinedRead, rfl⟩

/-- A key whose tag is one of a field's selects what the field does, another one what comes
next. -/
theorem Selects.ite {own : Prop} [Decidable own]
    {first others : List UInt8 → Option (Parsed α)} (selects : Selects first)
    (selectsOthers : Selects others) :
    Selects fun input => if own then first input else others input := by
  by_cases same : own
  · simp only [if_pos same]
    exact selects
  · simp only [if_neg same]
    exact selectsOthers

theorem Selects.of_confined {read : List UInt8 → Parsed α} (confined : Confined read) :
    Selects fun input => some (read input) :=
  .inr ⟨read, confined, rfl⟩

/-- A field is read from a key and from what follows it up to some point. -/
theorem exists_of_readField {depth : Nat}
    {merge? : Key → α → List UInt8 → Option (Parsed α)} {record : α}
    (selects : ∀ key, Selects (merge? key record)) {input : List UInt8} {value : α}
    {rest : List UInt8} (read : readField depth merge? record input = .ok (value, rest)) :
    ∃ key head body, Key.Written key head ∧ input = head ++ (body ++ rest) ∧
      ∀ other, readField depth merge? record (head ++ (body ++ other)) =
        .ok (value, other) := by
  have confined (key : Key) : Confined fun input =>
      (merge? key record input).getD
        (.ofExcept ((skipValue depth key input).map (record, ·))) := by
    rcases selects key with missing | ⟨read, confined, found⟩
    · simp only [missing]
      exact (confined_skipValue depth key record).ofExcept
    · simp only [found]
      exact confined
  cases decoded : Key.decode input with
  | error fault => simp [readField, decoded] at read
  | ok result =>
      obtain ⟨key, behind⟩ := result
      obtain ⟨head, written, rfl⟩ := Key.decode_eq_ok_iff.mp decoded
      rw [readField_written written] at read
      obtain ⟨body, rfl, same⟩ := confined key read
      refine ⟨key, head, body, written, rfl, fun other => ?_⟩
      rw [readField_written written]
      exact same other

theorem confined_readField {depth : Nat}
    {merge? : Key → α → List UInt8 → Option (Parsed α)} {record : α}
    (selects : ∀ key, Selects (merge? key record)) :
    Confined (readField depth merge? record) := by
  intro input value rest read
  obtain ⟨_, head, body, _, rfl, same⟩ := exists_of_readField selects read
  refine ⟨head ++ body, (List.append_assoc head body rest).symm, fun other => ?_⟩
  rw [List.append_assoc]
  exact same other

/-- Every field takes at least the byte of its key. -/
theorem length_lt_of_readField {depth : Nat}
    {merge? : Key → α → List UInt8 → Option (Parsed α)} {record : α}
    (selects : ∀ key, Selects (merge? key record)) {input : List UInt8}
    {after : α × List UInt8} (read : readField depth merge? record input = .ok after) :
    after.2.length < input.length := by
  obtain ⟨_, head, body, written, rfl, _⟩ := exists_of_readField selects read
  have positive := List.length_pos_of_ne_nil written.ne_nil
  simp only [List.length_append]
  omega

/-- Fields that are read one after the other are confined like a single one. -/
theorem FieldsRead.confined {read : α → List UInt8 → Parsed α}
    (confined : ∀ record, Confined (read record)) {before after : α × List UInt8}
    (reads : FieldsRead read before after) :
    ∃ used, before.2 = used ++ after.2 ∧
      ∀ other, FieldsRead read (before.1, used ++ other) (after.1, other) := by
  induction reads using ReflTransGen.head_induction_on with
  | refl => exact ⟨[], rfl, fun _ => .refl⟩
  | @head before middle first _ ih =>
      obtain ⟨read, shorter⟩ := first
      obtain ⟨used, split, same⟩ := confined _ read
      obtain ⟨more, splitMore, sameMore⟩ := ih
      refine ⟨used ++ more, ?_, fun other => .head ⟨?_, ?_⟩ (sameMore other)⟩
      · rw [split, splitMore, List.append_assoc]
      · rw [List.append_assoc]
        exact same (more ++ other)
      · rw [split, List.length_append] at shorter
        simp only [List.length_append]
        omega

/-- Fields are read one after the other up to the position that is given. -/
theorem bodyConfined_readFields {read : α → List UInt8 → Parsed α}
    (confined : ∀ record, Confined (read record))
    (shorter : ∀ {record input after}, read record input = .ok after →
      after.2.length < input.length) (record : α) :
    BodyConfined fun stop input => readFields read stop input.length record input := by
  intro stop input value rest finished
  obtain ⟨reads, stopped⟩ := fieldsRead_of_readFields shorter (Nat.le_refl _) finished
  obtain ⟨used, split, same⟩ := reads.confined confined
  exact ⟨used, split, stopped, fun other => readFields_of_fieldsRead (same other) (Nat.le_refl _)⟩

mutual

/-- Messages are confined to the bytes up to their end. -/
theorem MessageType.bodyConfined_merge : (type : MessageType) → (depth : Nat) →
    (record : type.Record) →
    BodyConfined fun stop input => type.merge depth stop record input
  | .mk name fields, depth, record => by
      have selects (key : Key) (record : fields.Record) :
          Selects fun input => fields.merge? name depth key record input :=
        fields.selects_merge? name depth key record
      exact bodyConfined_readFields
        (fun record => confined_readField fun key => selects key record)
        (length_lt_of_readField fun key => selects key _) record

theorem Fields.selects_merge? : (fields : Fields) → (owner : String) → (depth : Nat) →
    (key : Key) → (record : fields.Record) →
    Selects fun input => fields.merge? owner depth key record input
  | .done, _, _, _, _ => .inl rfl
  | .plain _ _ _ type rest, owner, depth, key, (_, others) =>
      .ite (.of_confined <| ((type.confined_readValue key).inField _).map _)
        ((rest.selects_merge? owner depth key others).map fun confined => confined.map _)
  | .optional _ _ type rest, owner, depth, key, (_, others) =>
      .ite (.of_confined <| ((type.confined_readValue key).inField _).map _)
        ((rest.selects_merge? owner depth key others).map fun confined => confined.map _)
  | .byteStrings _ _ rest, owner, depth, key, (_, others) =>
      .ite (.of_confined <| ((ScalarType.bytes.confined_readValue key).inField _).map _)
        ((rest.selects_merge? owner depth key others).map fun confined => confined.map _)
  | .message _ _ type rest, owner, depth, key, (_, others) =>
      .ite (.of_confined <| ((confined_readNested (fun depth => type.bodyConfined_merge depth _)
          depth key).inField _).map _)
        ((rest.selects_merge? owner depth key others).map fun confined => confined.map _)
  | .choice _ _ _ members rest, owner, depth, key, (value, others) =>
      .ite ((members.selects_merge? depth key value).map fun confined =>
          (confined.inField _).map _)
        ((rest.selects_merge? owner depth key others).map fun confined => confined.map _)

theorem Members.selects_merge? : (members : Members) → (depth : Nat) → (key : Key) →
    (value : Option members.Choice) →
    Selects fun input => members.merge? depth key value input
  | .done, _, _, _ => .inl rfl
  | .scalar _ _ type rest, depth, key, _ =>
      .ite (.of_confined <| (type.confined_readValue key).map _)
        ((rest.selects_merge? depth key _).map fun confined => confined.map _)
  | .message _ _ type rest, depth, key, _ =>
      .ite (.of_confined <|
          (confined_readNested (fun depth => type.bodyConfined_merge depth _) depth key).map _)
        ((rest.selects_merge? depth key _).map fun confined => confined.map _)

end

end RadioSnapshot.Schema
