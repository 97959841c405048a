import RadioSnapshot.Proofs.Schema.Telling
import RadioSnapshot.Proofs.Snapshot.Secrets
import RadioSnapshot.Proofs.Snapshot.ClosedForm

/-!
# Reports are read back from their JSON

The JSON of a report is one line, and what a reader finds in it is the report: every field
that is displayed, whatever characters a radio has put into its texts. The two tables of
settings have to be keyed by the names of the sections, as those of a snapshot made of
messages are. Then a report's JSON tells it apart from all others, but for the secret fields
and the single-precision numbers.
-/

namespace RadioSnapshot

open Radio Schema Wire Json

/-- Every value stands under its own name, the names in ascending order. -/
structure NameTable.Keyed {α : Type} (nameOf : α → String) (table : NameTable α) : Prop where
  ascending : table.names.Pairwise (· < ·)
  named : ∀ entry ∈ table.entries, entry.1 = nameOf entry.2

theorem NameTable.Latest.keyed {α : Type} {nameOf : α → String} {values : List α}
    {table : NameTable α} (latest : Latest nameOf values table) : table.Keyed nameOf where
  ascending := latest.ascending
  named := by
    rintro ⟨name, value⟩ member
    rw [mem_entries_iff latest.ascending, latest.get?] at member
    have filtered := List.mem_of_getLast? member
    exact (of_decide_eq_true (List.mem_filter.mp filtered).2).symm

theorem NameTable.Keyed.nodup {α : Type} {nameOf : α → String} {table : NameTable α}
    (keyed : table.Keyed nameOf) : table.names.Nodup := by
  refine keyed.ascending.imp ?_
  rintro name _ before rfl
  exact String.lt_irrefl name before

namespace Snapshot

/-- The settings are keyed by the names of their sections. -/
structure Keyed (snapshot : Snapshot) : Prop where
  config : snapshot.config.Keyed ConfigSection.name
  moduleConfig : snapshot.moduleConfig.Keyed ModuleSection.name

/-- The settings of a snapshot that is made of messages are keyed. -/
theorem keyed_ofMessages (request : UInt32) (messages : List Message) :
    (ofMessages request messages).Keyed where
  config := (ClosedForm.ofMessages request messages).config.keyed
  moduleConfig := (ClosedForm.ofMessages request messages).moduleConfig.keyed

/-- What the JSON of a snapshot is to say. -/
def document (snapshot : Snapshot) : Document :=
  .object
    [ ("node_number", snapshot.nodeNumber.elim .null fun number => .integer number.toNat),
      ("device_identity", snapshot.deviceIdentity.elim .null fun identity =>
        .string (hexText identity)),
      ("hardware_id", .string snapshot.hardwareId),
      ("long_name", .string snapshot.longName),
      ("short_name", .string snapshot.shortName),
      ("metadata", snapshot.metadata.elim .null deviceMetadata.document),
      ("config", .object (snapshot.config.entries.map fun (name, settings) =>
        (name, (configSections.document settings).2))),
      ("module_config", .object (snapshot.moduleConfig.entries.map fun (name, settings) =>
        (name, (moduleSections.document settings).2))),
      ("channels", .array (snapshot.channels.map channel.document)),
      ("config_complete", .bool snapshot.configComplete) ]

end Snapshot

/-- A table of settings is written with each under its name. -/
theorem NameTable.document_entries (members : Members) (table : NameTable members.Choice) :
    memberDocuments (table.entries.map fun (name, settings) => (name, members.toJson settings)) =
      table.entries.map fun (name, settings) => (name, (members.document settings).2) := by
  have said (settings : members.Choice) :
      (members.toJson settings).document = (members.document settings).2 :=
    congrArg Prod.snd (members.document_toJson settings)
  simp only [memberDocuments_eq_map, List.map_map, Function.comp_def, said]

theorem NameTable.distinct_entries {members : Members} (distinct : members.isDistinct = true)
    {nameOf : members.Choice → String} {table : NameTable members.Choice}
    (keyed : table.Keyed nameOf) :
    (Json.object (table.entries.map fun (name, settings) =>
      (name, members.toJson settings))).Distinct := by
  refine ⟨?_, membersDistinct_of_forall (List.forall_mem_map.mpr fun entry _ =>
    members.distinct_toJson distinct entry.2)⟩
  rw [List.map_map]
  exact keyed.nodup

namespace Snapshot

/-- The value that a snapshot is written as. -/
def written (snapshot : Snapshot) : Json :=
  .object
    [ ("node_number", .ofOption (fun (number : UInt32) => .nat number.toNat)
        snapshot.nodeNumber),
      ("device_identity", .ofOption (fun identity => .string (Hex.encode identity))
        snapshot.deviceIdentity),
      ("hardware_id", .string snapshot.hardwareId),
      ("long_name", .string snapshot.longName),
      ("short_name", .string snapshot.shortName),
      ("metadata", .ofOption deviceMetadata.toJson snapshot.metadata),
      ("config", .object (snapshot.config.entries.map fun (name, settings) =>
        (name, configSections.toJson settings))),
      ("module_config", .object (snapshot.moduleConfig.entries.map fun (name, settings) =>
        (name, moduleSections.toJson settings))),
      ("channels", .array (snapshot.channels.map channel.toJson)),
      ("config_complete", .bool snapshot.configComplete) ]

/-- Every snapshot can be written, as the keys of its tables are texts. -/
theorem toJson_eq_written (snapshot : Snapshot) : snapshot.toJson = .ok snapshot.written := by
  simp only [toJson, NameTable.toJson_eq]
  rfl

theorem document_written (snapshot : Snapshot) : snapshot.written.document = snapshot.document := by
  have identity (bytes : List UInt8) :
      (Json.string (Hex.encode bytes)).document = .string (hexText bytes) :=
    congrArg Document.string (encode_eq_hexText bytes)
  have channels : documents (snapshot.channels.map channel.toJson) =
      snapshot.channels.map channel.document := by
    rw [documents_eq_map, List.map_map]
    exact List.map_congr_left fun slot _ => channel.document_toJson slot
  simp only [written, Json.document, memberDocuments, NameTable.document_entries, channels,
    document_ofOption identity, document_ofOption deviceMetadata.document_toJson, document]
  cases snapshot.nodeNumber <;> rfl

theorem distinct_written {snapshot : Snapshot} (keyed : snapshot.Keyed) :
    snapshot.written.Distinct := by
  have channels : (Json.array (snapshot.channels.map channel.toJson)).Distinct :=
    allDistinct_of_forall (List.forall_mem_map.mpr fun slot _ => channel.distinct_toJson rfl slot)
  have number : (Json.ofOption (fun (number : UInt32) => .nat number.toNat)
      snapshot.nodeNumber).Distinct := by
    cases snapshot.nodeNumber <;> trivial
  have identity : (Json.ofOption (fun identity => .string (Hex.encode identity))
      snapshot.deviceIdentity).Distinct := by
    cases snapshot.deviceIdentity <;> trivial
  have metadata : (Json.ofOption deviceMetadata.toJson snapshot.metadata).Distinct :=
    distinct_ofOption (deviceMetadata.distinct_toJson rfl) _
  refine ⟨?_, number, identity, trivial, trivial, trivial, metadata,
    NameTable.distinct_entries rfl keyed.config,
    NameTable.distinct_entries rfl keyed.moduleConfig, channels, trivial, trivial⟩
  simp only [List.map_cons, List.map_nil]
  decide

end Snapshot

/-! ## Telling reports apart -/

/-- The settings that a report's JSON does not tell. -/
def untoldPlaces : List Place :=
  configSections.untold ++ moduleSections.untold

/-- These are the secret fields and two single-precision numbers. -/
theorem untoldPlaces_eq :
    untoldPlaces =
      [⟨"PowerConfig", "adc_multiplier_override"⟩, ⟨"NetworkConfig", "wifi_psk"⟩,
        ⟨"LoRaConfig", "frequency_offset"⟩, ⟨"BluetoothConfig", "fixed_pin"⟩,
        ⟨"SecurityConfig", "private_key"⟩, ⟨"MqttConfig", "password"⟩] := rfl

/-- Tables whose values are told by their names and what they say. -/
theorem NameTable.map_eq_of_documents {members : Members} {shown : members.Choice → members.Choice}
    (told : ∀ settings other, members.document settings = members.document other →
      shown settings = shown other)
    {entries others : List (String × members.Choice)}
    (named : ∀ entry ∈ entries, entry.1 = members.nameOf entry.2)
    (otherNamed : ∀ entry ∈ others, entry.1 = members.nameOf entry.2)
    (same : (entries.map fun (name, settings) => (name, (members.document settings).2)) =
      others.map fun (name, settings) => (name, (members.document settings).2)) :
    (NameTable.mk entries).map shown = (NameTable.mk others).map shown := by
  rw [map, map]
  congr 1
  induction entries generalizing others with
  | nil =>
      cases others with
      | nil => rfl
      | cons => cases same
  | cons entry entries ih =>
      cases others with
      | nil => cases same
      | cons other others =>
          obtain ⟨name, value⟩ := entry
          obtain ⟨name', value'⟩ := other
          obtain ⟨first, rest⟩ := List.forall_mem_cons.mp named
          obtain ⟨otherFirst, otherRest⟩ := List.forall_mem_cons.mp otherNamed
          simp only [List.map_cons, List.cons.injEq, Prod.mk.injEq] at same
          obtain ⟨⟨rfl, here⟩, behind⟩ := same
          have names : (members.document value).1 = (members.document value').1 := by
            rw [members.fst_document, members.fst_document, ← first, ← otherFirst]
          have values := told value value' (Prod.ext names here)
          have entries := ih rest otherRest behind
          simp only [List.map_cons, values, List.cons.injEq, true_and]
          exact entries

namespace Snapshot

/-- The snapshot with everything concealed that its JSON does not tell. -/
def told (snapshot : Snapshot) : Snapshot :=
  { snapshot with
    config := snapshot.config.map (configSections.concealed untoldPlaces)
    moduleConfig := snapshot.moduleConfig.map (moduleSections.concealed untoldPlaces) }

theorem told_eq_of_document {snapshot other : Snapshot} (keyed : snapshot.Keyed)
    (otherKeyed : other.Keyed) (same : snapshot.document = other.document) :
    snapshot.told = other.told := by
  simp only [document, Document.object.injEq, List.cons.injEq, Prod.mk.injEq, true_and, and_true,
    Document.string.injEq, Document.bool.injEq, Document.array.injEq] at same
  obtain ⟨number, identity, hardwareId, longName, shortName, metadata, config, moduleConfig,
    channels, configComplete⟩ := same
  have numbers : snapshot.nodeNumber = other.nodeNumber :=
    document_option_eq (@ScalarType.document_ne_null .uint32 ScalarType.noConfusion)
      (@ScalarType.document_injective .uint32 ScalarType.noConfusion) number
  have identities : snapshot.deviceIdentity = other.deviceIdentity :=
    document_option_eq (fun _ => Document.noConfusion)
      (@ScalarType.document_injective .bytes ScalarType.noConfusion) identity
  have descriptors : snapshot.metadata = other.metadata :=
    document_option_eq deviceMetadata.document_ne_null
      (fun _ _ => MessageType.document_injective rfl rfl) metadata
  have settings : snapshot.config.map (configSections.concealed untoldPlaces) =
      other.config.map (configSections.concealed untoldPlaces) :=
    NameTable.map_eq_of_documents (configSections.concealed_eq_of_document rfl (by decide))
      keyed.config.named otherKeyed.config.named config
  have modules : snapshot.moduleConfig.map (moduleSections.concealed untoldPlaces) =
      other.moduleConfig.map (moduleSections.concealed untoldPlaces) :=
    NameTable.map_eq_of_documents (moduleSections.concealed_eq_of_document rfl (by decide))
      keyed.moduleConfig.named otherKeyed.moduleConfig.named moduleConfig
  have slots : snapshot.channels = other.channels := by
    have injective : Function.Injective channel.document :=
      fun _ _ => MessageType.document_injective rfl rfl
    exact List.map_injective_iff.mpr injective channels
  simp only [told, numbers, identities, descriptors, settings, modules, slots, hardwareId, longName,
    shortName, configComplete]

end Snapshot

/-- The word for an outcome in the JSON of a report. -/
def Outcome.word : Outcome → String
  | .completed => "completed"
  | .timedOut => "timed_out"
  | .endOfInput => "end_of_input"

theorem Outcome.word_injective {outcome other : Outcome} (same : outcome.word = other.word) :
    outcome = other := by
  revert same
  cases outcome <;> cases other <;> decide

namespace Report

/-- What the JSON of a report is to say. -/
def document (report : Report) : Document :=
  .object
    [ ("complete", .bool (decide (report.outcome = .completed))),
      ("config", report.snapshot.document),
      ("outcome", .string report.outcome.word),
      ("stats", .object
        [ ("frames", .integer report.stats.frames),
          ("decode_failures", .integer report.stats.decodeFailures),
          ("ignored_messages", .integer report.stats.ignoredMessages),
          ("debug_lines", .integer report.stats.consoleLines) ]),
      ("elapsed_ms", .integer (min (report.elapsed.nanoseconds / 1000000) (2 ^ 64 - 1) : Nat)) ]

/-- The value that a report is written as. -/
def written (report : Report) : Json :=
  .object
    [ ("complete", .bool report.isComplete),
      ("config", report.snapshot.written),
      ("outcome", .string report.outcome.name),
      ("stats", report.stats.toJson),
      ("elapsed_ms", .nat (min report.elapsed.milliseconds 0xFFFFFFFFFFFFFFFF)) ]

/-- Every report can be written: its snapshot can, and its members can stand beside others. -/
theorem output_eq_written (report : Report) : report.output = .ok report.written := by
  rw [output, toJson, report.snapshot.toJson_eq_written]
  rfl

theorem document_written (report : Report) : report.written.document = report.document := by
  have complete : report.isComplete = decide (report.outcome = .completed) := by
    rw [isComplete]
    cases report.outcome <;> rfl
  have outcome : report.outcome.name = report.outcome.word := by
    cases report.outcome <;> rfl
  rw [document, ← complete, ← outcome, ← report.snapshot.document_written]
  rfl

theorem distinct_written {report : Report} (keyed : report.snapshot.Keyed) :
    report.written.Distinct := by
  have stats : report.stats.toJson.Distinct := by
    refine ⟨?_, trivial, trivial, trivial, trivial, trivial⟩
    simp only [List.map_cons, List.map_nil]
    decide
  refine ⟨?_, trivial, Snapshot.distinct_written keyed, trivial, stats, trivial, trivial⟩
  simp only [List.map_cons, List.map_nil]
  decide

/-- The reports are the same but for what their JSON does not tell. -/
structure ToldAlike (report other : Report) : Prop where
  snapshot : report.snapshot.told = other.snapshot.told
  outcome : report.outcome = other.outcome
  stats : report.stats = other.stats
  elapsed : min (report.elapsed.nanoseconds / 1000000) (2 ^ 64 - 1) =
    min (other.elapsed.nanoseconds / 1000000) (2 ^ 64 - 1)

theorem toldAlike_of_document {report other : Report} (keyed : report.snapshot.Keyed)
    (otherKeyed : other.snapshot.Keyed) (same : report.document = other.document) :
    report.ToldAlike other := by
  simp only [document, Document.object.injEq, List.cons.injEq, Prod.mk.injEq, true_and, and_true,
    Document.string.injEq, Document.integer.injEq, Int.natCast_inj] at same
  obtain ⟨_, snapshot, outcome, ⟨frames, failures, ignored, lines⟩, elapsed⟩ := same
  have stats : report.stats = other.stats := by
    rcases counted : report.stats with ⟨_, _, _, _⟩
    rcases otherCounted : other.stats with ⟨_, _, _, _⟩
    simp only [counted, otherCounted] at frames failures ignored lines
    rw [frames, failures, ignored, lines]
  exact ⟨Snapshot.told_eq_of_document keyed otherKeyed snapshot, Outcome.word_injective outcome,
    stats, elapsed⟩

end Report

/-- The JSON of a report is read back, and tells the report apart from others.

The settings of a snapshot made of messages are keyed by the names of their sections. A report
on a snapshot of which this is true can be written, so that the empty object is never put out
in its place. Its JSON is one line, and a reader finds in it an object with these members and
no others: whether the report is complete, the snapshot with all its fields that are displayed,
the outcome, the statistics, and the time in milliseconds as far as 64 bits reach. Two such
reports with the same JSON are the same, but for the four secret fields and the two
single-precision numbers. -/
theorem json_reads_back :
    (∀ (request : UInt32) (messages : List Message),
      (Snapshot.ofMessages request messages).Keyed) ∧
    ∀ report : Report, report.snapshot.Keyed →
      (∃ json, report.output = .ok json ∧ report.renderJson = json.render) ∧
      report.renderJson ≠ "\x7b\x7d" ∧
      (∀ char ∈ report.renderJson.toList, Inline char) ∧
      Document.read? report.renderJson = some report.document ∧
      ∀ other : Report, other.snapshot.Keyed → report.renderJson = other.renderJson →
        report.ToldAlike other := by
  refine ⟨Snapshot.keyed_ofMessages, fun report keyed => ?_⟩
  have rendered (report : Report) : report.renderJson = report.written.render := by
    rw [Report.renderJson, report.output_eq_written]
  have read {report : Report} (keyed : report.snapshot.Keyed) :
      Document.read? report.renderJson = some report.document := by
    rw [rendered, read?_render (Report.distinct_written keyed), Report.document_written]
  refine ⟨⟨_, report.output_eq_written, rendered report⟩, ?_, ?_, read keyed, ?_⟩
  · intro empty
    have text : render (.object []) = "\x7b\x7d" := rfl
    have nothing : (Json.object []).Distinct := ⟨List.nodup_nil, trivial⟩
    have found := read keyed
    rw [empty, ← text, read?_render nothing] at found
    cases found
  · rw [rendered, render, String.toList_ofList]
    exact inline_chars _
  · intro other otherKeyed same
    have found := read keyed
    rw [same, read otherKeyed] at found
    exact Report.toldAlike_of_document keyed otherKeyed (Option.some.inj found).symm

/-- A radio with a long name of quotes, backslashes, control characters and letters of any
script, and with this pass phrase. -/
def awkwardReport (passPhrase : String) : Report where
  snapshot := .ofMessages configRequestId
    [ .nodeIdentity (7, 0, 0, [0xAB, 0x01], "", ()),
      .nodeRecord (7, some ("!07", "\"\\ \n\x01\x7f é€😀", "\x7d,", [], 0, false, 0, [], ()),
        ⟨0⟩, 0, 0, false, none, ()),
      .config (.inr (.inr (.inr (.inl (true, "home", passPhrase, "", false, 0, ()))))) ]
  outcome := .timedOut
  stats := ⟨3, 0, 0, 1⟩
  elapsed := .ofSeconds 1

/-- The name is read back, and the pass phrases make no difference. -/
theorem json_reads_back_awkward :
    Document.read? (awkwardReport "one").renderJson = some (awkwardReport "one").document ∧
      (awkwardReport "one").snapshot.longName = "\"\\ \n\x01\x7f é€😀" ∧
      (awkwardReport "one").snapshot.config.entries.length = 1 ∧
      (awkwardReport "one").ToldAlike (awkwardReport "two") := by
  have keyed (passPhrase : String) : (awkwardReport passPhrase).snapshot.Keyed :=
    json_reads_back.1 configRequestId _
  have same : (awkwardReport "one").renderJson = (awkwardReport "two").renderJson := by
    rw [← Report.renderJson_concealed, ← (awkwardReport "two").renderJson_concealed]
    rfl
  obtain ⟨_, _, _, read, apart⟩ := json_reads_back.2 (awkwardReport "one") (keyed "one")
  exact ⟨read, by decide +kernel, by decide +kernel, apart (awkwardReport "two") (keyed "two") same⟩

end RadioSnapshot
