import EnvAudit.Editor.Buffer
import EnvAudit.Issue
import EnvAudit.Text.Blank

/-! Diagnostics: issues as marks in a buffer. A mark reaches from the issue's column over the first occurrence of the
variable's name after it, or else to the end of the line. -/
namespace EnvAudit.Editor

structure Diagnostic where
  span : Span
  message : String
  level : Nat
  code : String
  name : String
deriving Repr, DecidableEq

def levelOf : Severity → Nat
  | .error => 1
  | .info => 3
  | _ => 2

def lineIndex (location : Location) : Nat := (location.line - 1).toNat

def markEnd (line name : List Char) (start : Nat) : Nat :=
  let found := if line.length < start then none else Text.find? name (line.drop start)
  match found with
  | some distance => start + distance + name.length
  | none => max (Text.trimEnd line).length start

def diagnosticAt (lines : List (List Char)) (issue : Issue) (location : Location) : Diagnostic :=
  let line := lineIndex location
  let start := location.column.getD 0
  let stop := markEnd (lines[line]?.getD []) issue.name.toList start
  { span := ⟨⟨line, start⟩, ⟨line, stop⟩⟩
    message := issue.message
    level := levelOf issue.severity
    code := issue.kind.name
    name := issue.name }

def diagnostics (issues : List Issue) (file : String) (content : List Char) : List Diagnostic :=
  issues.filterMap fun issue => do
    let location ← issue.location
    if location.file == file then some (diagnosticAt (Text.lines content) issue location) else none

end EnvAudit.Editor
