import RadioSnapshot.Report.Wording
import RadioSnapshot.Text.Grid

/-!
# Rendering of reports

A report can be rendered as one line of JSON, as a table, or as a summary line by
line.
-/

namespace RadioSnapshot.Report

/-- A report as it is put out: whether it is complete, and beside that its own
members. -/
def output (report : Report) : Except JsonError Json := do
  let body ← report.toJson
  let members ← body.flattened
  .ok (.object (("complete", .bool report.isComplete) :: members))

/-- A report as one line of JSON, or an empty object if it cannot be written. -/
def renderJson (report : Report) : String :=
  match report.output with
  | .ok json => json.render
  | .error _ => "\x7b\x7d"

/-- The rows of a report's table. -/
def rows (report : Report) : List (String × String) :=
  let snapshot := report.snapshot
  let stats := report.stats
  [ ("Node number", nodeNumberText snapshot.nodeNumber),
    ("Hardware ID", snapshot.hardwareId),
    ("Long name", snapshot.longName),
    ("Short name", snapshot.shortName),
    ("Device ID", (snapshot.deviceIdentity.map Hex.encode).getD ""),
    ("Firmware", snapshot.firmwareText),
    ("Hardware model", snapshot.hardwareModelText),
    ("Config", ", ".intercalate snapshot.config.names),
    ("Modules", ", ".intercalate snapshot.moduleConfig.names),
    ("Channels", snapshot.channelsText),
    ("Config complete", truthText snapshot.configComplete),
    ("Outcome", report.outcome.text),
    ("Frames", s!"{stats.frames} ({stats.decodeFailures} undecodable, " ++
      s!"{stats.ignoredMessages} ignored)"),
    ("Elapsed", toString report.elapsed.milliseconds ++ "ms") ]

def renderTable (report : Report) : String :=
  Grid.render ["FIELD", "VALUE"] (report.rows.map fun (field, value) => [field, value])

/-- The lines of a report's summary. -/
def summaryLines (report : Report) : List String :=
  let snapshot := report.snapshot
  [ "Device Configuration:",
    "  Node Number: " ++ nodeNumberText snapshot.nodeNumber,
    "  Hardware ID: " ++ snapshot.hardwareId,
    "  Long Name: " ++ snapshot.longName,
    "  Short Name: " ++ snapshot.shortName ] ++
  (if snapshot.metadata.isSome then
    [ "  Firmware: " ++ snapshot.firmwareText,
      "  Hardware Model: " ++ snapshot.hardwareModelText ]
  else []) ++
  [ "  Channels: " ++ toString snapshot.channels.length,
    "  Config Complete: " ++ truthText snapshot.configComplete ] ++
  (if report.isComplete then []
  else ["  Result: partial (" ++ report.outcome.text ++ ")"])

def renderSummary (report : Report) : String :=
  String.join (report.summaryLines.map (· ++ "\n"))

end RadioSnapshot.Report
