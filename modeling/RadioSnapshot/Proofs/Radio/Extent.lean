import RadioSnapshot.Proofs.Schema.Slices
import RadioSnapshot.Radio.Message

/-!
# Envelopes are read within the extents that they declare

The lengths in an envelope are checked against what is left of the whole payload, and a
field that runs past its message is noticed only behind it. All the same nothing is read
from outside the extent of a field.
-/

namespace RadioSnapshot.Radio

open Schema

/-- A message that ends somewhere in the input is read from the slice up to there: it is
accepted when the slice is, with the same record, and what comes behind makes no
difference. A payload is accepted, as an envelope and as a message, when the reader accepts
it that gives every nested message its own slice, and both read the same from it. -/
theorem decode_within_extents :
    (∀ (type : MessageType) (depth : Nat) (record value : type.Record)
      (content after rest : List UInt8),
      type.merge depth after.length record (content ++ after) = .ok (value, rest) ↔
        type.mergeSlice depth record content = some value ∧ rest = after) ∧
    ∀ payload : List UInt8,
      (fromRadio.decode payload).toOption = fromRadio.decodeSlice payload ∧
        (Message.decode payload).toOption =
          (fromRadio.decodeSlice payload).bind fun envelope =>
            (Message.ofEnvelope envelope).toOption := by
  constructor
  · intro type depth record value content after rest
    exact MessageType.merge_eq_ok_iff
  · intro payload
    have same := fromRadio.toOption_decode payload
    refine ⟨same, ?_⟩
    rw [Message.decode, ← same]
    cases fromRadio.decode payload <;> rfl

/-- A node record of two bytes with a user record of three in it: there are enough bytes in
the payload, but not in the node record. -/
example : Message.decode [0x22, 0x02, 0x12, 0x03, 0x0A, 0x01, 0x41] =
    .error (.malformed ⟨.lengthExceeded, [⟨"FromRadio", "payload_variant"⟩]⟩) := by
  rfl

end RadioSnapshot.Radio
