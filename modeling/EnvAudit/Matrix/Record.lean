import EnvAudit.Config.Record
import EnvAudit.Matrix.Summary

/-! Comparisons as JSON values. The value of a secret is left out. -/
namespace EnvAudit.Matrix

structure Comparison where
  environments : List String
  information : List (String × Json)
  rows : List Row
  summary : Summary
  timestamp : String
deriving Repr

def Comparison.findings (comparison : Comparison) : List Finding := comparison.rows.flatMap (·.findings)

def Cell.record (cell : Cell) : Json :=
  .object ([("status", .text cell.status.name), ("valid", .bool cell.valid)]
    ++ (if cell.isSecret then [] else Json.optional "value" .text cell.value)
    ++ Json.optional "file" .text cell.file ++ Json.optional "line" (fun line => .int (line : Nat)) cell.line
    ++ Json.optional "error" .text cell.error
    ++ (if cell.isSecret then [("is_secret", .bool true)] else []))

def Finding.record (finding : Finding) : Json :=
  .object ([("type", .text finding.kind.name), ("severity", .text finding.severity.name),
      ("variable", .text finding.name), ("environments", Json.ofStrings finding.environments),
      ("message", .text finding.message)]
    ++ Json.optional "fix" .text (finding.fix.filter (· != "")))

def Tally.record (tally : Tally) : Json :=
  .object [("total", .int tally.total), ("missing", .int tally.missing), ("invalid", .int tally.invalid)]

def Summary.record (summary : Summary) : Json :=
  .object [("total_variables", .int summary.totalVariables),
    ("consistent_variables", .int summary.consistentVariables), ("error_count", .int summary.errorCount),
    ("warning_count", .int summary.warningCount), ("info_count", .int summary.infoCount),
    ("per_environment", .object (summary.perEnvironment.map fun (name, tally) => (name, tally.record)))]

def Comparison.record (comparison : Comparison) : Json :=
  .object [("timestamp", .text comparison.timestamp),
    ("environments", Json.ofStrings comparison.environments),
    ("environment_info", .object comparison.information),
    ("matrix", Json.ofFields (comparison.rows.map fun row =>
      (row.name, .object (row.cells.map fun (name, cell) => (name, cell.record))))),
    ("rows", .list (comparison.rows.map fun row =>
      .object [("name", .text row.name), ("status", .text row.status.name),
        ("issues", .list (row.findings.map Finding.record))])),
    ("summary", comparison.summary.record)]

end EnvAudit.Matrix
