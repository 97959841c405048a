import RadioSnapshot.Proofs.Schema.Confinement

/-!
# Nested messages in slices of their own

A message can also be read by handing every nested message the bytes of its own extent and
nothing else: a length is then checked against the slice at hand, and a slice has to be
used up. Reading one flat input, where a nested message is only a position at which to
stop, comes to the same: it accepts the same inputs and gives the same records. What is
read before such a position is confined to the bytes that it takes, so whatever runs past
it is noticed there.
-/

namespace RadioSnapshot.Schema

open Wire Relation

variable {α β : Type}

/-- Read fields until the slice is used up. Every field takes at least the byte of its
key, so `budget`, the length of the slice, bounds the number of fields. -/
def readSlice (readField : α → List UInt8 → Option (α × List UInt8)) :
    (budget : Nat) → α → List UInt8 → Option α
  | _, record, [] => some record
  | 0, _, _ :: _ => none
  | budget + 1, record, byte :: slice => do
      let (record, rest) ← readField record (byte :: slice)
      readSlice readField budget record rest

/-- Read a scalar that was laid out as its key says. -/
def ScalarType.readFrom (type : ScalarType) (key : Key) (slice : List UInt8) :
    Option (type.Value × List UInt8) :=
  if key.wireType = type.wireType then (type.decode slice).toOption else none

/-- Cut off the slice of a nested message and read all of it, one level further down. -/
def readNestedSlice (readBody : (depth : Nat) → List UInt8 → Option α) :
    (depth : Nat) → Key → List UInt8 → Option (α × List UInt8)
  | 0, _, _ => none
  | depth + 1, key, slice => do
      let (content, rest) ← ScalarType.bytes.readFrom key slice
      let value ← readBody depth content
      some (value, rest)

/-- Read one field, key and value. The value of an undeclared field is passed over. -/
def readFieldFrom (depth : Nat)
    (merge? : Key → α → List UInt8 → Option (Option (α × List UInt8))) (record : α)
    (slice : List UInt8) : Option (α × List UInt8) := do
  let (key, rest) ← (Key.decode slice).toOption
  (merge? key record rest).getD ((skipValue depth key rest).toOption.map (record, ·))

/-- What was read, put to use. -/
def readAs (change : α → β) (read : Option (α × List UInt8)) : Option (β × List UInt8) :=
  read.map fun (value, rest) => (change value, rest)

mutual

/-- Read a slice into a record, with `depth` levels of nesting to go. -/
def MessageType.mergeSlice : (type : MessageType) → (depth : Nat) → type.Record →
    List UInt8 → Option type.Record
  | .mk _ fields, depth, record, slice =>
      readSlice (readFieldFrom depth fun key record slice =>
        fields.mergeSlice? depth key record slice) slice.length record slice

/-- Read the value after a key into the field that has its tag, if there is one. -/
def Fields.mergeSlice? (depth : Nat) (key : Key) :
    (fields : Fields) → fields.Record → List UInt8 → Option (Option (fields.Record × List UInt8))
  | .done, _, _ => none
  | .plain _ tag _ type rest, (value, others), slice =>
      if key.tag = tag then some <| readAs (·, others) (type.readFrom key slice)
      else (rest.mergeSlice? depth key others slice).map (readAs (value, ·))
  | .optional tag _ type rest, (value, others), slice =>
      if key.tag = tag then some <| readAs (some ·, others) (type.readFrom key slice)
      else (rest.mergeSlice? depth key others slice).map (readAs (value, ·))
  | .byteStrings tag _ rest, (values, others), slice =>
      if key.tag = tag then
        some <| readAs (fun value => (values ++ [value], others))
          (ScalarType.bytes.readFrom key slice)
      else (rest.mergeSlice? depth key others slice).map (readAs (values, ·))
  | .message tag _ type rest, (value, others), slice =>
      if key.tag = tag then
        some <| readAs (some ·, others) (readNestedSlice (fun depth slice =>
          type.mergeSlice depth (value.getD type.blank) slice) depth key slice)
      else (rest.mergeSlice? depth key others slice).map (readAs (value, ·))
  | .choice tags _ _ members rest, (value, others), slice =>
      if tags.contains key.tag then
        (members.mergeSlice? depth key value slice).map (readAs (some ·, others))
      else (rest.mergeSlice? depth key others slice).map (readAs (value, ·))

/-- Read the value after a key as the member that has its tag, if there is one. -/
def Members.mergeSlice? (depth : Nat) (key : Key) :
    (members : Members) → Option members.Choice → List UInt8 →
      Option (Option (members.Choice × List UInt8))
  | .done, _, _ => none
  | .scalar tag _ type rest, value, slice =>
      if key.tag = tag then some <| readAs .inl (type.readFrom key slice)
      else (rest.mergeSlice? depth key (value.bind Sum.getRight?) slice).map (readAs .inr)
  | .message tag _ type rest, value, slice =>
      if key.tag = tag then
        some <| readAs .inl (readNestedSlice (fun depth slice =>
          type.mergeSlice depth ((value.bind Sum.getLeft?).getD type.blank) slice)
            depth key slice)
      else (rest.mergeSlice? depth key (value.bind Sum.getRight?) slice).map (readAs .inr)

end

/-- Read a whole input as one message. -/
def MessageType.decodeSlice (type : MessageType) (input : List UInt8) : Option type.Record :=
  type.mergeSlice maxDepth type.blank input

/-- Reading the flat input and reading a slice come to the same, whatever the error. -/
def Alike (parsed : Parsed α) (sliced : Option (α × List UInt8)) : Prop :=
  parsed.toOption = sliced

theorem Alike.map {parsed : Parsed α} {sliced : Option (α × List UInt8)}
    (alike : Alike parsed sliced) (change : α → β) :
    Alike (parsed.map change) (readAs change sliced) := by
  subst alike
  cases parsed <;> rfl

theorem Alike.inField {parsed : Parsed α} {sliced : Option (α × List UInt8)}
    (alike : Alike parsed sliced) (place : Place) : Alike (parsed.inField place) sliced := by
  subst alike
  cases parsed <;> rfl

theorem alike_ofExcept (read : Except Fault (α × List UInt8)) :
    Alike (.ofExcept read) read.toOption := by
  cases read <;> rfl

/-- For the same keys there is a reader, and those read alike. -/
abbrev AlikeIfAny : Option (Parsed α) → Option (Option (α × List UInt8)) → Prop :=
  Option.Rel Alike

section

variable {parsed? others? : Option (Parsed α)}
  {sliced? otherSliced? : Option (Option (α × List UInt8))}

theorem AlikeIfAny.map (alike : AlikeIfAny parsed? sliced?) {change : Parsed α → Parsed β}
    {changeSliced : Option (α × List UInt8) → Option (β × List UInt8)}
    (changed : ∀ {parsed sliced}, Alike parsed sliced →
      Alike (change parsed) (changeSliced sliced)) :
    AlikeIfAny (parsed?.map change) (sliced?.map changeSliced) := by
  cases alike with
  | none => exact .none
  | some alike => exact .some (changed alike)

theorem AlikeIfAny.ite {own : Prop} [Decidable own] (alike : AlikeIfAny parsed? sliced?)
    (others : AlikeIfAny others? otherSliced?) :
    AlikeIfAny (if own then parsed? else others?)
      (if own then sliced? else otherSliced?) := by
  by_cases same : own
  · simp only [if_pos same]
    exact alike
  · simp only [if_neg same]
    exact others

end

theorem ScalarType.alike_readValue (type : ScalarType) (key : Key) (input : List UInt8) :
    Alike (type.readValue key input) (type.readFrom key input) := by
  rw [readValue, readFrom, Key.expect]
  by_cases same : key.wireType = type.wireType
  · simp only [if_pos same]
    exact alike_ofExcept _
  · simp only [if_neg same]
    rfl

/-- A body in the middle of the input is read as it is read on its own. -/
theorem BodyConfined.toOption_append {read : (stop : Nat) → List UInt8 → Parsed α}
    (confined : BodyConfined read) (content after : List UInt8) :
    (read after.length (content ++ after)).toOption =
      (read 0 content).toOption.map fun (value, _) => (value, after) := by
  cases alone : read 0 content with
  | ok result =>
      obtain ⟨value, rest⟩ := result
      obtain ⟨used, rfl, stopped, same⟩ := confined alone
      obtain rfl := List.eq_nil_of_length_eq_zero stopped
      rw [List.append_nil, same]
      rfl
  | error error =>
      cases within : read after.length (content ++ after) with
      | error error => rfl
      | ok result =>
          obtain ⟨value, rest⟩ := result
          obtain ⟨used, split, stopped, same⟩ := confined within
          obtain ⟨rfl, rfl⟩ := List.append_inj' split stopped.symm
          have accepted := same []
          rw [List.append_nil, List.length_nil, alone] at accepted
          cases accepted

/-- A slice is used up field by field as the input is up to its end. -/
theorem alike_readFields {read : α → List UInt8 → Parsed α}
    {readSliced : α → List UInt8 → Option (α × List UInt8)}
    (alike : ∀ record input, Alike (read record input) (readSliced record input))
    (shorter : ∀ {record input after}, read record input = .ok after →
      after.2.length < input.length)
    {budget : Nat} (record : α) {slice : List UInt8} (enough : slice.length ≤ budget) :
    Alike (readFields read 0 budget record slice)
      ((readSlice readSliced budget record slice).map (·, [])) := by
  induction budget generalizing record slice with
  | zero =>
      obtain rfl := List.eq_nil_of_length_eq_zero (Nat.eq_zero_of_le_zero enough)
      rfl
  | succ budget ih =>
      cases slice with
      | nil => rfl
      | cons byte slice =>
          have more : 0 < (byte :: slice).length := Nat.zero_lt_succ _
          rw [readFields, if_pos more, readSlice, ← alike]
          cases first : read record (byte :: slice) with
          | error error => rfl
          | ok after =>
              obtain ⟨record, rest⟩ := after
              have fewer : rest.length < (byte :: slice).length := shorter first
              exact ih record (by omega)

/-- A nested message is read from its slice as it is read up to its end. -/
theorem alike_readNested {readBody : (depth stop : Nat) → List UInt8 → Parsed α}
    {readSliced : (depth : Nat) → List UInt8 → Option α}
    (alike : ∀ (depth : Nat) (content after : List UInt8),
      Alike (readBody depth after.length (content ++ after))
        ((readSliced depth content).map (·, after)))
    (depth : Nat) (key : Key) (input : List UInt8) :
    Alike (readNested readBody depth key input) (readNestedSlice readSliced depth key input) := by
  by_cases layout : key.wireType = .lengthDelimited
  · have expected : key.wireType = ScalarType.bytes.wireType := layout
    cases depth with
    | zero =>
        simp only [readNested, Key.expect, if_pos layout]
        rfl
    | succ depth =>
        simp only [readNested, Key.expect, if_pos layout, readNestedSlice, ScalarType.readFrom,
          if_pos expected, ScalarType.decode, ScalarType.decodeBytes]
        cases Varint.decode input with
        | error fault => rfl
        | ok result =>
            obtain ⟨length, rest⟩ := result
            simp only [bind, Except.bind, takeExactly]
            split
            next => rfl
            next enough =>
              have whole : (rest.drop length).length = rest.length - length := List.length_drop
              have body := alike depth (rest.take length) (rest.drop length)
              rw [List.take_append_drop, whole] at body
              simp only [Except.toOption, Option.bind_some]
              cases sliced : readSliced depth (rest.take length) <;> rwa [sliced] at body
  · have unexpected : ¬ key.wireType = ScalarType.bytes.wireType := layout
    cases depth <;>
      simp [Alike, readNested, Key.expect, layout, readNestedSlice, ScalarType.readFrom,
        unexpected, Except.toOption]

/-- So is a field of it. -/
theorem alike_readField {depth : Nat}
    {merge? : Key → α → List UInt8 → Option (Parsed α)}
    {mergeSlice? : Key → α → List UInt8 → Option (Option (α × List UInt8))}
    (alike : ∀ key record input,
      AlikeIfAny (merge? key record input) (mergeSlice? key record input))
    (record : α) (input : List UInt8) :
    Alike (readField depth merge? record input) (readFieldFrom depth mergeSlice? record input) := by
  unfold readField readFieldFrom
  cases Key.decode input with
  | error fault => rfl
  | ok result =>
      obtain ⟨key, rest⟩ := result
      simp only [Except.toOption, Option.bind_eq_bind, Option.bind_some]
      have found := alike key record rest
      generalize merge? key record rest = parsed?, mergeSlice? key record rest = sliced? at found
      cases found with
      | some alike => exact alike
      | none => cases skipValue depth key rest <;> rfl

mutual

/-- Whatever follows it, a message is read from the bytes of its own extent. -/
theorem MessageType.alike_merge : (type : MessageType) → (depth : Nat) →
    (record : type.Record) → (content after : List UInt8) →
    Alike (type.merge depth after.length record (content ++ after))
      ((type.mergeSlice depth record content).map (·, after))
  | .mk name fields, depth, record, content, after => by
      have confined := (MessageType.mk name fields).bodyConfined_merge depth record
      have alone : Alike ((MessageType.mk name fields).merge depth 0 record content)
          (((MessageType.mk name fields).mergeSlice depth record content).map (·, [])) :=
        alike_readFields
          (alike_readField fun key record input => fields.alike_merge? name depth key record input)
          (length_lt_of_readField fun key => fields.selects_merge? name depth key _)
          record (Nat.le_refl _)
      rw [Alike, confined.toOption_append, alone, Option.map_map]
      rfl

theorem Fields.alike_merge? : (fields : Fields) → (owner : String) → (depth : Nat) →
    (key : Key) → (record : fields.Record) → (input : List UInt8) →
    AlikeIfAny (fields.merge? owner depth key record input)
      (fields.mergeSlice? depth key record input)
  | .done, _, _, _, _, _ => .none
  | .plain _ _ _ type rest, owner, depth, key, (_, others), input =>
      .ite (.some <| ((type.alike_readValue key input).inField _).map _)
        ((rest.alike_merge? owner depth key others input).map fun alike => alike.map _)
  | .optional _ _ type rest, owner, depth, key, (_, others), input =>
      .ite (.some <| ((type.alike_readValue key input).inField _).map _)
        ((rest.alike_merge? owner depth key others input).map fun alike => alike.map _)
  | .byteStrings _ _ rest, owner, depth, key, (_, others), input =>
      .ite (.some <| ((ScalarType.bytes.alike_readValue key input).inField _).map _)
        ((rest.alike_merge? owner depth key others input).map fun alike => alike.map _)
  | .message _ _ type rest, owner, depth, key, (_, others), input =>
      .ite (.some <| ((alike_readNested (fun depth => type.alike_merge depth _)
          depth key input).inField _).map _)
        ((rest.alike_merge? owner depth key others input).map fun alike => alike.map _)
  | .choice _ _ _ members rest, owner, depth, key, (value, others), input =>
      .ite ((members.alike_merge? depth key value input).map fun alike => (alike.inField _).map _)
        ((rest.alike_merge? owner depth key others input).map fun alike => alike.map _)

theorem Members.alike_merge? : (members : Members) → (depth : Nat) → (key : Key) →
    (value : Option members.Choice) → (input : List UInt8) →
    AlikeIfAny (members.merge? depth key value input)
      (members.mergeSlice? depth key value input)
  | .done, _, _, _, _ => .none
  | .scalar _ _ type rest, depth, key, _, input =>
      .ite (.some <| (type.alike_readValue key input).map _)
        ((rest.alike_merge? depth key _ input).map fun alike => alike.map _)
  | .message _ _ type rest, depth, key, _, input =>
      .ite (.some <|
          (alike_readNested (fun depth => type.alike_merge depth _) depth key input).map _)
        ((rest.alike_merge? depth key _ input).map fun alike => alike.map _)

end

theorem toOption_eq_some_iff {ε : Type} {result : Except ε α} {value : α} :
    result.toOption = some value ↔ result = .ok value := by
  cases result <;> simp [Except.toOption]

/-- A body is read up to its end, as the slice up to there is read. -/
theorem MessageType.merge_eq_ok_iff {type : MessageType} {depth : Nat} {record : type.Record}
    {content after : List UInt8} {value : type.Record} {rest : List UInt8} :
    type.merge depth after.length record (content ++ after) = .ok (value, rest) ↔
      type.mergeSlice depth record content = some value ∧ rest = after := by
  have same : (type.merge depth after.length record (content ++ after)).toOption =
      (type.mergeSlice depth record content).map (·, after) :=
    type.alike_merge depth record content after
  rw [← toOption_eq_some_iff, same, Option.map_eq_some_iff]
  constructor
  · rintro ⟨_, sliced, whole⟩
    cases whole
    exact ⟨sliced, rfl⟩
  · rintro ⟨sliced, rfl⟩
    exact ⟨value, sliced, rfl⟩

/-- A whole input is read like a slice. -/
theorem MessageType.toOption_decode (type : MessageType) (input : List UInt8) :
    (type.decode input).toOption = type.decodeSlice input := by
  have same : (type.merge maxDepth 0 type.blank (input ++ [])).toOption =
      (type.mergeSlice maxDepth type.blank input).map (·, []) :=
    type.alike_merge maxDepth type.blank input []
  rw [List.append_nil] at same
  have first : (type.decode input).toOption =
      (type.merge maxDepth 0 type.blank input).toOption.map Prod.fst := by
    rw [decode]
    cases type.merge maxDepth 0 type.blank input <;> rfl
  rw [first, same, decodeSlice, Option.map_map]
  exact Option.map_id'

end RadioSnapshot.Schema
