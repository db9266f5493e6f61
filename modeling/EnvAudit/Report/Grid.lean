import EnvAudit.Matrix.Record
import EnvAudit.Report.Console

/-! The printed grid of a comparison: a column for every environment, then the findings and a summary. -/
namespace EnvAudit.Report
open EnvAudit.Matrix

def cellText (cell : Cell) : String :=
  if cell.status == .missing && cell.valid then "-" else cell.status.name

def columnWidths (table : List (List String)) : List Nat :=
  match table with
  | [] => []
  | header :: _ =>
    (List.range header.length).map fun i => (table.map fun cells => (cells[i]?.getD "").length).foldl max 0

def gridLine (widths : List Nat) (cells : List String) : String :=
  let padded := (cells.zip widths).map fun (cell, width) => String.ofList (Text.padEnd width cell.toList)
  String.ofList (Text.trimEnd (joinWith "  " padded).toList)

def statusCodes : Status → Option Code
  | .ok => none
  | .error => some .red
  | .warning => some .yellow
  | .info => some .blue

def rowLine (color : Bool) (widths : List Nat) (row : Row) (cells : List String) : String :=
  match statusCodes row.status with
  | some code => paint color [code] (gridLine widths cells)
  | none => gridLine widths cells

def findingLines (color : Bool) (finding : Finding) : List String :=
  (paint color [severityCode finding.severity] finding.kind.name ++ " " ++ finding.name ++ ": " ++ finding.message)
    :: fixLines color finding.fix

def grid (color : Bool) (comparison : Comparison) : String :=
  let header := "Variable" :: comparison.environments ++ ["Status"]
  let lineOf := fun (row : Row) =>
    row.name :: comparison.environments.map (fun e => cellText (row.cell e)) ++ [row.status.name]
  let widths := columnWidths (header :: comparison.rows.map lineOf)
  let found := comparison.findings
  let numbers := comparison.summary
  printed ([paint color [.bold] (gridLine widths header),
      joinWith "  " (widths.map fun width => String.ofList (List.replicate width '-'))]
    ++ comparison.rows.map (fun row => rowLine color widths row (lineOf row))
    ++ [""]
    ++ found.flatMap (findingLines color)
    ++ (if found.isEmpty then [] else [""])
    ++ [toString numbers.consistentVariables ++ "/" ++ toString numbers.totalVariables
      ++ " variable(s) consistent across " ++ toString comparison.environments.length ++ " environment(s): "
      ++ toString numbers.errorCount ++ " error(s), " ++ toString numbers.warningCount ++ " warning(s), "
      ++ toString numbers.infoCount ++ " info"])

end EnvAudit.Report
