import RadioSnapshot.Proofs.Schema.Concealment
import RadioSnapshot.Proofs.Snapshot.NameTable
import RadioSnapshot.Report.Render
import RadioSnapshot.Snapshot.Merge

/-!
# Snapshots with secrets

A snapshot keeps the secrets of a radio as they were sent, but none of its renderings shows
them. Concealing the secrets commutes with everything that is done to a snapshot, so that
nothing that can be seen of one depends on them.
-/

namespace RadioSnapshot

open Radio Schema Wire

namespace Radio

/-- Where a radio keeps its secrets. -/
def secretPlaces : List Place :=
  [⟨"NetworkConfig", "wifi_psk"⟩, ⟨"BluetoothConfig", "fixed_pin"⟩,
    ⟨"SecurityConfig", "private_key"⟩, ⟨"MqttConfig", "password"⟩]

/-- These are the fields that are not displayed. -/
theorem places_secret :
    configSections.places .secret ++ moduleSections.places .secret = secretPlaces := rfl

theorem configSections_toJson_concealed (settings : ConfigSection) :
    configSections.toJson (configSections.concealed secretPlaces settings) =
      configSections.toJson settings :=
  configSections.toJson_concealed (by decide) settings

theorem moduleSections_toJson_concealed (settings : ModuleSection) :
    moduleSections.toJson (moduleSections.concealed secretPlaces settings) =
      moduleSections.toJson settings :=
  moduleSections.toJson_concealed (by decide) settings

/-- The message without the secrets in it. -/
def Message.concealed : Message → Message
  | .config settings => .config (configSections.concealed secretPlaces settings)
  | .moduleConfig settings => .moduleConfig (moduleSections.concealed secretPlaces settings)
  | message => message

end Radio

namespace Snapshot

/-- The snapshot without the secrets in it. -/
def concealed (snapshot : Snapshot) : Snapshot :=
  { snapshot with
    config := snapshot.config.map (configSections.concealed secretPlaces)
    moduleConfig := snapshot.moduleConfig.map (moduleSections.concealed secretPlaces) }

theorem isResolved_concealed (snapshot : Snapshot) :
    snapshot.concealed.isResolved = snapshot.isResolved := rfl

theorem offerIdentity_concealed (identity : List UInt8) (snapshot : Snapshot) :
    snapshot.concealed.offerIdentity identity = (snapshot.offerIdentity identity).concealed := by
  have sameIdentity : snapshot.concealed.deviceIdentity = snapshot.deviceIdentity := rfl
  simp only [offerIdentity, sameIdentity]
  split <;> rfl

theorem applyIdentity_concealed (info : MyNodeInfo) (snapshot : Snapshot) :
    snapshot.concealed.applyIdentity info =
      ((snapshot.applyIdentity info).1, (snapshot.applyIdentity info).2.concealed) := by
  have sameNumber : snapshot.concealed.nodeNumber = snapshot.nodeNumber := rfl
  simp only [applyIdentity, sameNumber]
  split
  · rfl
  · split
    · simp only [← offerIdentity_concealed]
      rfl
    · split
      · simp only [← offerIdentity_concealed]
      · rfl

theorem applyRecord_concealed (node : NodeInfo) (snapshot : Snapshot) :
    snapshot.concealed.applyRecord node =
      ((snapshot.applyRecord node).1, (snapshot.applyRecord node).2.concealed) := by
  have sameNumber : snapshot.concealed.nodeNumber = snapshot.nodeNumber := rfl
  simp only [applyRecord, sameNumber]
  split
  · split
    · rfl
    · simp only [← offerIdentity_concealed]
      rfl
  · rfl

/-- Merging does not look at secrets. -/
theorem apply_concealed (request : UInt32) (message : Message) (snapshot : Snapshot) :
    snapshot.concealed.apply request message.concealed =
      ((snapshot.apply request message).1, (snapshot.apply request message).2.concealed) := by
  cases message with
  | nodeIdentity info => exact applyIdentity_concealed info snapshot
  | nodeRecord node => exact applyRecord_concealed node snapshot
  | metadata => rfl
  | config settings =>
      simp only [apply, Message.concealed, concealed, NameTable.map_insert, ConfigSection.name,
        configSections.nameOf_concealed]
  | moduleConfig settings =>
      simp only [apply, Message.concealed, concealed, NameTable.map_insert, ModuleSection.name,
        moduleSections.nameOf_concealed]
  | channel slot =>
      have sameChannels : snapshot.concealed.channels = snapshot.channels := rfl
      simp only [apply, Message.concealed, sameChannels]
      split <;> rfl
  | configComplete answered =>
      have sameComplete : snapshot.concealed.configComplete = snapshot.configComplete := rfl
      simp only [apply, Message.concealed, sameComplete]
      split <;> rfl
  | logRecord => rfl
  | other => rfl

/-- Secrets are no part of a snapshot in JSON. -/
theorem toJson_concealed (snapshot : Snapshot) : snapshot.concealed.toJson = snapshot.toJson := by
  simp only [toJson, concealed, NameTable.toJson_map, configSections_toJson_concealed,
    moduleSections_toJson_concealed]

end Snapshot

namespace Report

/-- The report without the secrets in its snapshot. -/
def concealed (report : Report) : Report :=
  { report with snapshot := report.snapshot.concealed }

theorem renderJson_concealed (report : Report) :
    report.concealed.renderJson = report.renderJson := by
  have body : report.concealed.toJson = report.toJson := by
    simp only [toJson, concealed, Snapshot.toJson_concealed]
  rw [renderJson, renderJson, output, output, body]
  rfl

theorem rows_concealed (report : Report) : report.concealed.rows = report.rows := by
  have configNames : report.snapshot.concealed.config.names = report.snapshot.config.names :=
    NameTable.names_map _ _
  have moduleNames : report.snapshot.concealed.moduleConfig.names =
      report.snapshot.moduleConfig.names :=
    NameTable.names_map _ _
  simp only [rows, concealed, configNames, moduleNames]
  rfl

theorem renderTable_concealed (report : Report) :
    report.concealed.renderTable = report.renderTable := by
  rw [renderTable, rows_concealed, renderTable]

theorem renderSummary_concealed (report : Report) :
    report.concealed.renderSummary = report.renderSummary := rfl

/-- The reports count the same and are rendered alike. -/
structure LooksLike (report report' : Report) : Prop where
  outcome : report.outcome = report'.outcome
  stats : report.stats = report'.stats
  json : report.renderJson = report'.renderJson
  table : report.renderTable = report'.renderTable
  summary : report.renderSummary = report'.renderSummary

theorem looksLike_of_concealed {report report' : Report}
    (same : report.concealed = report'.concealed) : report.LooksLike report' where
  outcome := by
    have outcomes := congrArg Report.outcome same
    exact outcomes
  stats := by
    have counts := congrArg Report.stats same
    exact counts
  json := by rw [← renderJson_concealed, same, renderJson_concealed]
  table := by rw [← renderTable_concealed, same, renderTable_concealed]
  summary := by rw [← renderSummary_concealed, same, renderSummary_concealed]

end Report

end RadioSnapshot
