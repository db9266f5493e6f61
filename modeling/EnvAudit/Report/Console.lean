import EnvAudit.Issue
import EnvAudit.Report
import EnvAudit.Text.Blank

/-! Terminal colors. Without color a text stands as it is. -/
namespace EnvAudit.Report

inductive Code
  | red
  | yellow
  | blue
  | cyan
  | green
  | bold
deriving Repr, DecidableEq

def Code.text : Code → String
  | .red => "\x1b[91m"
  | .yellow => "\x1b[93m"
  | .blue => "\x1b[94m"
  | .cyan => "\x1b[36m"
  | .green => "\x1b[32m"
  | .bold => "\x1b[1m"

def resetCode : String := "\x1b[0m"

def paint (color : Bool) (codes : List Code) (text : String) : String :=
  if color then String.join (codes.map Code.text) ++ text ++ resetCode else text

def severityCode : Severity → Code
  | .warning => .yellow
  | .info => .blue
  | _ => .red

/-! The report for terminals: the issues by kind, each with the line that it points at, and a summary. -/

structure Style where
  color : Bool := false
  verbose : Bool := false
  most : Int := 10
deriving Repr

abbrev Sources := String → Option String

def sourceLine (sources : Sources) (file : String) (line : Int) : String :=
  if line ≤ 0 then "" else (linesOf ((sources file).getD ""))[(line - 1).toNat]?.getD ""

private def blanks (n : Nat) : String := String.ofList (List.replicate n ' ')

def excerpt (color : Bool) (code : Code) (line : Int) (column : Nat) (content : String) : List String :=
  let number := toString line
  let bar := paint color [.cyan] "|"
  let marked := (Text.trimEnd (content.toList.drop column)).length
  [blanks number.length ++ " " ++ bar,
    number ++ " " ++ bar ++ " " ++ content,
    blanks (number.length + 3 + column)
      ++ paint color [code] (String.ofList (List.replicate (if marked == 0 then 1 else marked) '^')),
    blanks number.length ++ " " ++ bar]

def placeLines (color : Bool) (code : Code) (sources : Sources) (location : Location) : List String :=
  let column := location.column.getD 0
  let content := sourceLine sources location.file location.line
  ("  " ++ paint color [.cyan] "-->" ++ " " ++ location.file ++ ":" ++ toString location.line ++ ":"
      ++ toString (column + 1))
    :: (if content == "" then [] else excerpt color code location.line column content)

def fixLines (color : Bool) (fix : Option String) : List String :=
  match fix with
  | some fix => if fix == "" then [] else ["  = " ++ paint color [.bold] "help" ++ ": " ++ fix]
  | none => []

def issueLines (color : Bool) (sources : Sources) (issue : Issue) : List String :=
  let code := severityCode issue.severity
  (paint color [code] issue.kind.name ++ " " ++ issue.message)
    :: ((match issue.location with
        | some location => placeLines color code sources location
        | none => [])
      ++ fixLines color issue.fix ++ [""])

/-- The issues that are shown: all of them, or as many as allowed; a negative number leaves out that many at the
end. -/
def shown (style : Style) (issues : List Issue) : List Issue :=
  if style.verbose then issues
  else if style.most < 0 then issues.take (issues.length - style.most.natAbs)
  else issues.take style.most.toNat

def kindLines (style : Style) (sources : Sources) (group : IssueKind × List Issue) : List String :=
  let issues := group.2
  let noun := if issues.length == 1 then "issue" else "issues"
  let code := severityCode ((issues.head?.map (·.severity)).getD .error)
  let visible := shown style issues
  [paint style.color [.bold, code] (group.1.heading ++ " (" ++ toString issues.length ++ " " ++ noun ++ ")"), ""]
    ++ visible.flatMap (issueLines style.color sources)
    ++ (if visible.length < issues.length then
        ["  ... and " ++ toString (issues.length - visible.length) ++ " more", ""] else [])

def faultLines (findings : Findings) : List String :=
  findings.declarationFaults.map (fun fault =>
      fault.file.getD "None" ++ ":" ++ toString fault.line ++ ": " ++ fault.message)
    ++ findings.scanFaults.map fun fault => fault.file ++ ": " ++ fault.message

def closingLine (color : Bool) (findings : Findings) : String :=
  let numbers := findings.statistics
  let time := "(" ++ toString numbers.milliseconds ++ "ms)"
  if findings.issues.isEmpty then
    paint color [.green] ("No issues found in " ++ toString numbers.filesScanned ++ " file(s)") ++ " " ++ time
  else
    "Found " ++ toString numbers.errors ++ " error(s), " ++ toString numbers.warnings ++ " warning(s) and "
      ++ toString numbers.notes ++ " info message(s) in " ++ toString numbers.filesScanned ++ " file(s) " ++ time

def printed (lines : List String) : String := String.join (lines.map (· ++ "\n"))

def console (style : Style) (sources : Sources) (findings : Findings) : String :=
  printed ([paint style.color [.bold, .cyan] "env-doctor" ++ " " ++ version,
      "Framework: " ++ findings.framework,
      "Scanned " ++ toString findings.statistics.filesScanned ++ " file(s), "
        ++ toString findings.declared.length ++ " declared variable(s)",
      ""]
    ++ (Issue.byKind findings.issues).flatMap (kindLines style sources)
    ++ (if style.verbose then faultLines findings else [])
    ++ [closingLine style.color findings])

end EnvAudit.Report
