import RadioSnapshot.Radio.Envelope
import RadioSnapshot.Proofs.Schema.Length
import RadioSnapshot.Proofs.Schema.RoundTrip

/-!
# Envelopes are read as they were written

In every message on the link the tags of the fields are valid and differ, every choice lists
the tags of its members, and no message nests too deep to be read, so whatever an envelope
holds is read back. Writing what was read is therefore settled after one turn, also where the
input was written differently.
-/

namespace RadioSnapshot.Radio

open Schema Wire

/-- Both envelopes can be read back. -/
theorem isReadable_envelope {type : MessageType} (envelope : type ∈ [fromRadio, toRadio]) :
    type.isReadable maxDepth = true := by
  rcases List.mem_pair.mp envelope with rfl | rfl
  · decide +kernel
  · decide +kernel

/-- An envelope is read back as it was written, but for the negative zeros of its plain
fields, and its length is known beforehand. Hence any input that can be read, written once
more, gives bytes that stay the same from then on. Lengths on the wire are below
`Varint.bound`, and so is the length of every buffer. -/
theorem envelope_roundTrip {type : MessageType} (envelope : type ∈ [fromRadio, toRadio]) :
    (∀ record : type.Record,
      type.encodedLength record = (type.encode record).length ∧
      ((type.encode record).length < Varint.bound →
        type.decode (type.encode record) = .ok (type.withoutNegativeZeros record))) ∧
    ∀ (input : List UInt8) (record : type.Record), type.decode input = .ok record →
      (type.encode record).length < Varint.bound →
      ∃ again : type.Record, type.decode (type.encode record) = .ok again ∧
        type.encode again = type.encode record := by
  have readable := isReadable_envelope envelope
  constructor
  · intro record
    exact ⟨(type.length_encode record).symm, MessageType.decode_encode readable⟩
  · intro input record _ small
    exact ⟨type.withoutNegativeZeros record, MessageType.decode_encode readable small,
      type.encode_withoutNegativeZeros record⟩

/-- A node heard at a level of -0.0 is read back as heard at 0.0, while a hop count of
zero stays. A node number written with spare digits gives other bytes once, not twice. -/
theorem envelope_roundTrip_negativeZero :
    let heard (level : Binary32) : FromRadio :=
      (1, some (FromRadio.Variant.nodeInfo (7, none, level, 0, 0, false, some 0, ())), ())
    let named : FromRadio := (0, some (FromRadio.Variant.myInfo (7, 0, 0, [], "", ())), ())
    fromRadio ∈ [fromRadio, toRadio] ∧
      fromRadio.encodedLength (heard Binary32.negativeZero) = 8 ∧
      (fromRadio.encode (heard Binary32.negativeZero)).length < Varint.bound ∧
      fromRadio.decode (fromRadio.encode (heard Binary32.negativeZero)) = .ok (heard ⟨0⟩) ∧
      fromRadio.decode [0x1A, 0x04, 0x08, 0x87, 0x80, 0x00] = .ok named ∧
      fromRadio.encode named = [0x1A, 0x02, 0x08, 0x07] ∧
      (fromRadio.encode named).length < Varint.bound ∧
      ∃ again, fromRadio.decode (fromRadio.encode named) = .ok again ∧
        fromRadio.encode again = fromRadio.encode named := by
  intro heard named
  have envelope : fromRadio ∈ [fromRadio, toRadio] := List.mem_cons_self
  obtain ⟨written, settled⟩ := envelope_roundTrip envelope
  obtain ⟨length, readBack⟩ := written (heard Binary32.negativeZero)
  have short : fromRadio.encodedLength (heard Binary32.negativeZero) = 8 := by
    decide +kernel
  have small : (fromRadio.encode (heard Binary32.negativeZero)).length < Varint.bound := by
    rw [← length, short]
    decide
  have read : fromRadio.decode [0x1A, 0x04, 0x08, 0x87, 0x80, 0x00] = .ok named := rfl
  have bytes : fromRadio.encode named = [0x1A, 0x02, 0x08, 0x07] := by decide +kernel
  have smallBytes : (fromRadio.encode named).length < Varint.bound := by
    rw [bytes]
    decide
  exact ⟨envelope, short, small, readBack small, read, bytes, smallBytes,
    settled _ named read smallBytes⟩

end RadioSnapshot.Radio
