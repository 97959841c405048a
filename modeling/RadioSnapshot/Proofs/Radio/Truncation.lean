import RadioSnapshot.Proofs.Radio.Envelope
import RadioSnapshot.Proofs.Schema.Truncation
import RadioSnapshot.Session.Collector

/-!
# Cut payloads carry no message

An envelope is written as its number, unless that is zero, and then its variant. Cut inside
either it cannot be read, and cut in front of the variant there is none, so that a payload
of which the end is missing is never taken for a message.
-/

namespace RadioSnapshot

open Schema Wire Relation

namespace Radio

/-- One field of an envelope, number or variant, is read. -/
abbrev readEnvelopeField : FromRadio → List UInt8 → Parsed FromRadio :=
  readField maxDepth fun key record input =>
    fromRadio.fields.merge? "FromRadio" maxDepth key record input

/-- Nothing is left of a variant when it is read. -/
theorem usesUp_variant (variant : FromRadio.Variant) (envelope : FromRadio) :
    UsesUp (readEnvelopeField envelope) (fromRadioVariants.encode variant) := by
  obtain ⟨key, body, encoded, member, reads⟩ :=
    fromRadioVariants.exists_usesUp maxDepth (by decide) variant
  obtain ⟨id, base, ⟨⟩⟩ := envelope
  obtain ⟨read, found, usesUp⟩ := reads base
  have tags : ∀ tag ∈ fromRadioVariants.tags, Key.ValidTag tag ∧ tag ≠ 1 := by decide
  obtain ⟨valid, other⟩ := tags key.tag member
  rw [encoded]
  refine usesUp_readField valid ?_ (((usesUp.inField ⟨"FromRadio", "payload_variant"⟩).map
    fun variant => (some variant, ())).map fun others => (id, others))
  funext input
  have chosen : (Fields.choice fromRadioVariants.tags "payload_variant" .labelled
      fromRadioVariants .done).merge? "FromRadio" maxDepth key (base, ()) input =
      some (((read input).inField ⟨"FromRadio", "payload_variant"⟩).map
        fun variant => (some variant, ())) := by
    refine (if_pos (List.contains_iff_mem.mpr member)).trans ?_
    rw [found]
    rfl
  exact (if_neg other).trans (congrArg (Option.map (Parsed.map (id, ·))) chosen)

/-- No variant is known before all of it was read. -/
theorem eq_nil_of_fieldsRead_variant {variant : FromRadio.Variant}
    {before after : FromRadio} {left : List UInt8} (absent : before.variant = none)
    (reads : FieldsRead readEnvelopeField (before, fromRadioVariants.encode variant)
      (after, left)) (present : after.variant ≠ none) : left = [] := by
  rcases ReflTransGen.cases_head reads with nothing | ⟨⟨middle, behind⟩, first, others⟩
  · cases nothing
    exact absurd absent present
  · have read : readEnvelopeField before (fromRadioVariants.encode variant ++ []) =
        .ok (middle, behind) := by
      rw [List.append_nil]
      exact first.1
    obtain rfl := usesUp_variant variant before read
    exact List.eq_nil_of_length_eq_zero (Nat.eq_zero_of_le_zero (FieldsRead.length_le others))

theorem encode_fromRadio (id : UInt32) (variant : FromRadio.Variant) :
    fromRadio.encode (id, some variant, ()) =
      (if ScalarType.uint32.isBlank id then [] else ScalarType.uint32.encodeField 1 id) ++
        fromRadioVariants.encode variant := by
  rw [← List.append_nil (fromRadioVariants.encode variant)]
  rfl

/-- The number of an envelope is read by itself. -/
theorem fieldRead_id (id : UInt32) (rest : List UInt8) :
    FieldRead readEnvelopeField
      (fromRadio.blank, ScalarType.uint32.encodeField 1 id ++ rest) ((id, none, ()), rest) := by
  have small : (ScalarType.uint32.encode id).length < Varint.bound := by
    have digits := @Varint.encodedLength_le 4 id.toNat (Nat.lt_trans id.toNat_lt (by decide))
    rw [ScalarType.length_encode]
    exact Nat.lt_of_le_of_lt digits (by decide)
  apply FieldRead.of_merge? (by decide)
  apply (if_pos rfl).trans
  rw [ScalarType.readValue_encode _ _ _ small]
  rfl

/-- Nor is one known while the number of the envelope is read. -/
theorem eq_nil_of_fieldsRead_envelope {id : UInt32} {variant : FromRadio.Variant}
    {after : FromRadio} {left : List UInt8}
    (reads : FieldsRead readEnvelopeField
      (fromRadio.blank, fromRadio.encode (id, some variant, ())) (after, left))
    (present : after.variant ≠ none) : left = [] := by
  rw [encode_fromRadio] at reads
  split at reads
  next => exact eq_nil_of_fieldsRead_variant rfl reads present
  next =>
    rcases ReflTransGen.cases_head reads with nothing | ⟨middle, first, others⟩
    · cases nothing
      exact absurd rfl present
    · have same := first.1.symm.trans (fieldRead_id id (fromRadioVariants.encode variant)).1
      cases same
      exact eq_nil_of_fieldsRead_variant rfl others present

/-- What is read of a cut envelope shows no variant. -/
theorem variant_eq_none_of_decode {id : UInt32} {variant : FromRadio.Variant}
    {payload : List UInt8} {envelope : FromRadio}
    (isCut : payload <+: fromRadio.encode (id, some variant, ()))
    (shorter : payload ≠ fromRadio.encode (id, some variant, ()))
    (accepted : fromRadio.decode payload = .ok envelope) : envelope.variant = none := by
  obtain ⟨missing, whole⟩ := isCut
  have reads := MessageType.fieldsRead_of_decode accepted missing
  rw [whole] at reads
  by_contra present
  obtain rfl := eq_nil_of_fieldsRead_envelope reads present
  rw [List.append_nil] at whole
  exact shorter whole

/-- A payload of which the end is missing, however little of it and wherever the cut is, is
refused. The collector counts the failure and leaves everything else as it is. -/
theorem cut_payload_refused {envelope : FromRadio} {payload : List UInt8}
    (present : envelope.variant ≠ none) (isCut : payload <+: fromRadio.encode envelope)
    (shorter : payload ≠ fromRadio.encode envelope) :
    (∃ error, Message.decode payload = .error error) ∧
      ∀ (τ : Type) (sink : LineSink τ) (collector : Collector) (console : τ),
        collector.receive .envelope sink ⟨payload⟩ console =
          ({ collector with
              frames := collector.frames + 1
              decodeFailures := collector.decodeFailures + 1 }, console) := by
  obtain ⟨id, variant?, ⟨⟩⟩ := envelope
  obtain ⟨variant, rfl⟩ := Option.ne_none_iff_exists'.mp present
  have refused : ∃ error, Message.decode payload = .error error := by
    rw [Message.decode]
    cases read : fromRadio.decode payload with
    | error error => exact ⟨_, rfl⟩
    | ok envelope =>
        have absent := variant_eq_none_of_decode isCut shorter read
        refine ⟨.missingVariant .fromRadio, ?_⟩
        simp only [Message.ofEnvelope, absent]
  refine ⟨refused, ?_⟩
  intro τ sink collector console
  obtain ⟨error, failed⟩ := refused
  simp only [Collector.receive, Codec.envelope, failed]

/-- A node record of which the last byte, a hop count of zero, is missing. -/
theorem cut_payload_refused_last_byte :
    let node : NodeInfo := (7, none, ⟨0⟩, 0, 0, false, some 0, ())
    let envelope : FromRadio := (1, some (FromRadio.Variant.nodeInfo node), ())
    let payload : List UInt8 := [0x08, 0x01, 0x22, 0x04, 0x08, 0x07, 0x48]
    envelope.variant ≠ none ∧ fromRadio.encode envelope = payload ++ [0x00] ∧
      payload <+: fromRadio.encode envelope ∧ payload ≠ fromRadio.encode envelope ∧
      (∃ error, Message.decode payload = .error error) ∧
      (Collector.new 64).receive .envelope LineSink.collect ⟨payload⟩ [] =
        ({ Collector.new 64 with frames := 1, decodeFailures := 1 }, []) := by
  intro node envelope payload
  have present : envelope.variant ≠ none := Option.some_ne_none _
  have bytes : fromRadio.encode envelope = payload ++ [0x00] := by decide +kernel
  have isCut : payload <+: fromRadio.encode envelope := ⟨[0x00], bytes.symm⟩
  have shorter : payload ≠ fromRadio.encode envelope := by
    rw [bytes]
    decide
  obtain ⟨refused, counted⟩ := cut_payload_refused present isCut shorter
  exact ⟨present, bytes, isCut, shorter, refused, counted _ LineSink.collect (.new 64) []⟩

end Radio

end RadioSnapshot
