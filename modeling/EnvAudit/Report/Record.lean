import EnvAudit.Json.Writer
import EnvAudit.Report

/-! The report for programs. Values of variables do not appear in it. -/
namespace EnvAudit.Report

def declarationRecord (declaration : Declaration) : Json :=
  .object [("name", .text declaration.name), ("file", .text declaration.file), ("line", .int declaration.line),
    ("has_value", .bool (declaration.value != "")), ("is_secret", .bool declaration.isSecret)]

def usageRecord (usage : Usage) : Json :=
  .object [("name", .text usage.name), ("file", .text usage.file), ("line", .int usage.line),
    ("access_pattern", .text usage.access.name), ("is_client_side", .bool usage.isClientSide)]

def record (timestamp : String) (findings : Findings) : Json :=
  let numbers := findings.statistics
  .object [("version", .text version),
    ("timestamp", .text timestamp),
    ("framework", .text findings.framework),
    ("summary", .object [("total_issues", .int findings.issues.length), ("errors", .int numbers.errors),
      ("warnings", .int numbers.warnings), ("info", .int numbers.notes),
      ("files_scanned", .int numbers.filesScanned),
      ("declaration_files_parsed", .int numbers.declarationFilesParsed),
      ("duration_ms", .int numbers.milliseconds)]),
    ("issues", .list (findings.issues.map Issue.record)),
    ("variables", .object [("declared", .list (findings.declared.map declarationRecord)),
      ("used", .list (findings.usages.map usageRecord))])]

def json (timestamp : String) (indent : Option Nat) (findings : Findings) : String :=
  (record timestamp findings).write indent

def issuesOnly (issues : List Issue) : String :=
  (Json.object [("count", .int issues.length), ("issues", .list (issues.map Issue.record))]).write (some 2)

end EnvAudit.Report
