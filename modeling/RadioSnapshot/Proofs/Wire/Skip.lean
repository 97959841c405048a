import RadioSnapshot.Proofs.Wire.Key

/-!
# What is passed over

A reader passes over well-formed values and over nothing else: numbers in any of their
forms, words, bytes behind their length, and groups, which end with a key of their own
tag. It stops right behind the value, whatever comes there.
-/

namespace RadioSnapshot.Wire

/-- Fields one after the other, whose values have a form that may depend on the key. -/
inductive FieldRun (form : Key → List UInt8 → Prop) : List UInt8 → Prop where
  | nil : FieldRun form []
  | cons {key : Key} {head body rest : List UInt8} :
      key.Written head → form key body → FieldRun form rest →
      FieldRun form (head ++ (body ++ rest))

/-- The bytes are a value laid out as the key says. At most `depth` groups lie inside each
other, a value that is no group counting as one. -/
def WellFormed : (depth : Nat) → Key → List UInt8 → Prop
  | 0, _, _ => False
  | depth + 1, key, bytes =>
      match key.wireType with
      | .varint => ∃ value, Varint.Written value bytes
      | .thirtyTwoBit => bytes.length = 4
      | .sixtyFourBit => bytes.length = 8
      | .lengthDelimited =>
          ∃ digits content, Varint.Written content.length digits ∧ bytes = digits ++ content
      | .startGroup =>
          ∃ inner last, FieldRun (WellFormed depth) inner ∧
            Key.Written ⟨key.tag, .endGroup⟩ last ∧ bytes = inner ++ last
      | .endGroup => False

theorem WellFormed.ne_endGroup {depth : Nat} {key : Key} {bytes : List UInt8}
    (wellFormed : WellFormed depth key bytes) : key.wireType ≠ .endGroup := by
  intro layout
  cases depth with
  | zero => exact wellFormed
  | succ depth => simp only [WellFormed, layout] at wellFormed

theorem dropExactly_eq_ok_iff {length : Nat} {input rest : List UInt8} :
    dropExactly length input = .ok rest ↔
      ∃ content, content.length = length ∧ input = content ++ rest := by
  rw [dropExactly]
  constructor
  · intro dropped
    split at dropped
    next => cases dropped
    next enough =>
      cases dropped
      exact ⟨input.take length, List.length_take_of_le (Nat.le_of_not_lt enough),
        (List.take_append_drop length input).symm⟩
  · rintro ⟨content, rfl, rfl⟩
    have enough : ¬ (content ++ rest).length < content.length := by
      rw [List.length_append]
      omega
    rw [if_neg enough, List.drop_left]

section

variable {skip : Key → List UInt8 → Except Fault (List UInt8)}
  {form : Key → List UInt8 → Prop} {tag : Nat}

/-- What a group is read as is fields up to an end key of its own. -/
theorem exists_of_skipGroup
    (exact : ∀ {key input rest}, skip key input = .ok rest →
      ∃ body, form key body ∧ input = body ++ rest)
    {budget : Nat} {input rest : List UInt8}
    (skipped : skipGroup skip tag budget input = .ok rest) :
    ∃ inner last, FieldRun form inner ∧ Key.Written ⟨tag, .endGroup⟩ last ∧
      input = inner ++ last ++ rest := by
  induction budget generalizing input with
  | zero => cases skipped
  | succ budget ih =>
      rw [skipGroup, bind_eq_ok_iff] at skipped
      obtain ⟨⟨⟨keyTag, layout⟩, behind⟩, decoded, skipped⟩ := skipped
      obtain ⟨head, written, rfl⟩ := Key.decode_eq_ok_iff.mp decoded
      dsimp only at skipped
      split at skipped
      next ends =>
        split at skipped
        next own =>
          cases skipped
          subst ends own
          exact ⟨[], head, .nil, written, rfl⟩
        next => cases skipped
      next =>
        obtain ⟨later, passed, others⟩ := bind_eq_ok_iff.mp skipped
        obtain ⟨inner, last, run, closed, rfl⟩ := ih others
        obtain ⟨body, valid, rfl⟩ := exact passed
        refine ⟨head ++ (body ++ inner), last, .cons written valid run, closed, ?_⟩
        simp only [List.append_assoc]

/-- Fields and the end key of a group are passed over. -/
theorem FieldRun.skipGroup
    (exact : ∀ {key body}, form key body → key.wireType ≠ .endGroup ∧
      ∀ rest, skip key (body ++ rest) = .ok rest)
    {inner last : List UInt8} (run : FieldRun form inner)
    (closed : Key.Written ⟨tag, .endGroup⟩ last) {rest : List UInt8} {budget : Nat}
    (enough : (inner ++ last ++ rest).length ≤ budget) :
    Wire.skipGroup skip tag budget (inner ++ last ++ rest) = .ok rest := by
  induction run generalizing budget with
  | nil =>
      have positive := List.length_pos_of_ne_nil closed.ne_nil
      rw [List.nil_append, List.length_append] at enough
      cases budget with
      | zero => omega
      | succ budget =>
          rw [Wire.skipGroup, List.nil_append, Key.decode_written closed]
          simp only [bind, Except.bind, if_true]
  | @cons key head body others written valid _ ih =>
      have positive := List.length_pos_of_ne_nil written.ne_nil
      obtain ⟨goesOn, passed⟩ := exact valid
      simp only [List.append_assoc, List.length_append] at enough ih ⊢
      cases budget with
      | zero => omega
      | succ budget =>
          rw [Wire.skipGroup, Key.decode_written written]
          simp only [bind, Except.bind, if_neg goesOn, passed]
          exact ih (by omega)

end

/-- Passing over a value takes a well-formed value off the input. -/
theorem skipValue_eq_ok_iff {depth : Nat} {key : Key} {input rest : List UInt8} :
    skipValue depth key input = .ok rest ↔
      ∃ body, WellFormed depth key body ∧ input = body ++ rest := by
  induction depth generalizing key input rest with
  | zero => simp [skipValue, WellFormed]
  | succ depth ih =>
      simp only [skipValue, WellFormed]
      cases layout : key.wireType with
      | varint =>
          rw [bind_eq_ok_iff]
          constructor
          · rintro ⟨⟨value, behind⟩, decoded, same⟩
            cases same
            obtain ⟨digits, written, split⟩ := Varint.decode_eq_ok_iff.mp decoded
            exact ⟨digits, ⟨value, written⟩, split⟩
          · rintro ⟨digits, ⟨value, written⟩, rfl⟩
            exact ⟨(value, rest), Varint.decode_written written rest, rfl⟩
      | thirtyTwoBit => exact dropExactly_eq_ok_iff
      | sixtyFourBit => exact dropExactly_eq_ok_iff
      | lengthDelimited =>
          rw [bind_eq_ok_iff]
          constructor
          · rintro ⟨⟨length, behind⟩, decoded, dropped⟩
            obtain ⟨digits, written, rfl⟩ := Varint.decode_eq_ok_iff.mp decoded
            obtain ⟨content, rfl, rfl⟩ := dropExactly_eq_ok_iff.mp dropped
            exact ⟨digits ++ content, ⟨digits, content, written, rfl⟩,
              (List.append_assoc digits content rest).symm⟩
          · rintro ⟨_, ⟨digits, content, written, rfl⟩, rfl⟩
            rw [List.append_assoc]
            exact ⟨(content.length, content ++ rest), Varint.decode_written written _,
              dropExactly_eq_ok_iff.mpr ⟨content, rfl, rfl⟩⟩
      | startGroup =>
          dsimp only
          constructor
          · intro skipped
            obtain ⟨inner, last, run, closed, rfl⟩ :=
              @exists_of_skipGroup (skipValue depth) _ _ ih.mp _ _ _ skipped
            exact ⟨inner ++ last, ⟨inner, last, run, closed, rfl⟩, rfl⟩
          · rintro ⟨_, ⟨inner, last, run, closed, rfl⟩, rfl⟩
            have exact {key : Key} {body : List UInt8} (valid : WellFormed depth key body) :
                key.wireType ≠ .endGroup ∧
                  ∀ rest, skipValue depth key (body ++ rest) = .ok rest :=
              ⟨valid.ne_endGroup, fun rest => ih.mpr ⟨body, valid, rfl⟩⟩
            exact run.skipGroup exact closed (Nat.le_refl _)
      | endGroup => simp

theorem WellFormed.of_skipValue {depth : Nat} {key : Key} {bytes : List UInt8}
    (skipped : skipValue depth key bytes = .ok []) : WellFormed depth key bytes := by
  obtain ⟨_, wellFormed, rfl⟩ := skipValue_eq_ok_iff.mp skipped
  rwa [List.append_nil]

end RadioSnapshot.Wire
