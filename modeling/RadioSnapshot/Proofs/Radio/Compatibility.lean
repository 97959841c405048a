import RadioSnapshot.Proofs.Radio.Envelope
import RadioSnapshot.Radio.Message

/-!
# Newer radios are understood

A radio may know more fields and more variants than are declared here. Whatever it adds to
a message that is declared, on any level, the message is read as if nothing had been added.
-/

namespace RadioSnapshot.Radio

open Schema Wire

/-- All that can be wrong with an envelope that was read is a missing variant. -/
theorem Message.exists_of_ofEnvelope_error {envelope : FromRadio} {error : PayloadError}
    (failed : ofEnvelope envelope = .error error) :
    ∃ container, error = .missingVariant container := by
  unfold ofEnvelope at failed
  split at failed
  case h_1 =>
    cases failed
    exact ⟨.fromRadio, rfl⟩
  case h_5 =>
    split at failed
    · cases failed
    · cases failed
      exact ⟨.config, rfl⟩
  case h_9 =>
    split at failed
    · cases failed
    · cases failed
      exact ⟨.moduleConfig, rfl⟩
  all_goals cases failed

/-- Undeclared fields make no difference: an envelope with such fields put in, in front of
any of its fields or behind them and on any level, is read as it is read without them. Both
payloads then carry the same message, or in both the same variant is missing. -/
theorem undeclared_fields_ignored {envelope : FromRadio} {payload : List UInt8}
    (extended : fromRadio.Extended maxDepth envelope payload)
    (small : payload.length < Varint.bound) :
    fromRadio.decode payload = .ok (fromRadio.withoutNegativeZeros envelope) ∧
      fromRadio.decode (fromRadio.encode envelope) =
        .ok (fromRadio.withoutNegativeZeros envelope) ∧
      ((∃ message, Message.decode payload = .ok message ∧
          Message.decode (fromRadio.encode envelope) = .ok message) ∨
        ∃ container, Message.decode payload = .error (.missingVariant container) ∧
          Message.decode (fromRadio.encode envelope) = .error (.missingVariant container)) := by
  have envelopes : fromRadio ∈ [fromRadio, toRadio] := List.mem_cons_self
  have readable := isReadable_envelope envelopes
  have shorter := Nat.lt_of_le_of_lt extended.length_le small
  have read := MessageType.decode_extended readable extended small
  have readBare := MessageType.decode_encode readable shorter
  refine ⟨read, readBare, ?_⟩
  simp only [Message.decode, read, readBare]
  cases opened : Message.ofEnvelope (fromRadio.withoutNegativeZeros envelope) with
  | ok message => exact .inl ⟨message, rfl, rfl⟩
  | error error =>
      obtain ⟨container, rfl⟩ := Message.exists_of_ofEnvelope_error opened
      exact .inr ⟨container, rfl, rfl⟩

/-- A node record with a long field in front of everything, a group with a group inside it
behind the number of the envelope, two words inside the record, and a number with spare
digits at the very end. -/
theorem undeclared_fields_ignored_everywhere :
    let node : NodeInfo := (7, none, ⟨0⟩, 0, 0, false, some 0, ())
    let envelope : FromRadio := (1, some (FromRadio.Variant.nodeInfo node), ())
    let payload : List UInt8 :=
      [0x82, 0x01, 0x02, 0xAA, 0xBB, 0x08, 0x01, 0x63, 0x08, 0x85, 0x00, 0x13, 0x14, 0x64,
        0x22, 0x12, 0x08, 0x07, 0x19, 0x01, 0x02, 0x03, 0x04, 0x05, 0x06, 0x07, 0x08, 0x48,
        0x00, 0x55, 0x01, 0x02, 0x03, 0x04, 0x78, 0x81, 0x00]
    fromRadio.Extended maxDepth envelope payload ∧ payload.length < Varint.bound ∧
      fromRadio.encode envelope = [0x08, 0x01, 0x22, 0x04, 0x08, 0x07, 0x48, 0x00] ∧
      fromRadio.decode payload = .ok envelope ∧
      Message.decode payload = .ok (.nodeRecord node) := by
  intro node envelope payload
  have field (declared : List Nat) (depth : Nat) (key : Key) (head body : List UInt8)
      (written : Key.decode head = .ok (key, [])) (other : key.tag ∉ declared)
      (valid : skipValue depth key body = .ok []) :
      Undeclared declared depth (head ++ (body ++ [])) :=
    .cons (.of_decode written) ⟨other, .of_skipValue valid⟩ .nil
  have extendedNode : nodeInfo.Extended 99 node
      [0x08, 0x07, 0x19, 0x01, 0x02, 0x03, 0x04, 0x05, 0x06, 0x07, 0x08, 0x48, 0x00, 0x55,
        0x01, 0x02, 0x03, 0x04] := by
    refine ⟨[], [0x19, 0x01, 0x02, 0x03, 0x04, 0x05, 0x06, 0x07, 0x08, 0x48, 0x00, 0x55, 0x01,
      0x02, 0x03, 0x04], .nil, ⟨[], rfl, ?_⟩, by decide +kernel⟩
    exact ⟨[0x19, 0x01, 0x02, 0x03, 0x04, 0x05, 0x06, 0x07, 0x08], [0x55, 0x01, 0x02, 0x03, 0x04],
      field _ _ ⟨3, .sixtyFourBit⟩ [0x19] [0x01, 0x02, 0x03, 0x04, 0x05, 0x06, 0x07, 0x08] rfl
        (by decide) rfl,
      field _ _ ⟨10, .thirtyTwoBit⟩ [0x55] [0x01, 0x02, 0x03, 0x04] rfl (by decide) rfl,
      by decide +kernel⟩
  have extended : fromRadio.Extended maxDepth envelope payload := by
    refine ⟨[0x82, 0x01, 0x02, 0xAA, 0xBB], payload.drop 7,
      field _ _ ⟨16, .lengthDelimited⟩ [0x82, 0x01] [0x02, 0xAA, 0xBB] (by decide +kernel)
        (by decide) rfl,
      ⟨_, ⟨_, ⟨_, extendedNode, rfl⟩, rfl⟩, ?_⟩, by decide +kernel⟩
    exact ⟨[0x63, 0x08, 0x85, 0x00, 0x13, 0x14, 0x64], [0x78, 0x81, 0x00],
      field _ _ ⟨12, .startGroup⟩ [0x63] [0x08, 0x85, 0x00, 0x13, 0x14, 0x64] rfl (by decide) rfl,
      field _ _ ⟨15, .varint⟩ [0x78] [0x81, 0x00] rfl (by decide) rfl,
      by decide +kernel⟩
  have small : payload.length < Varint.bound := by decide
  obtain ⟨read, _, alike⟩ := undeclared_fields_ignored extended small
  have unchanged : fromRadio.withoutNegativeZeros envelope = envelope := rfl
  have bytes : fromRadio.encode envelope = [0x08, 0x01, 0x22, 0x04, 0x08, 0x07, 0x48, 0x00] := by
    decide +kernel
  rw [unchanged] at read
  refine ⟨extended, small, bytes, read, ?_⟩
  rw [Message.decode, read]
  rfl

end RadioSnapshot.Radio
