import EnvAudit.Json.Value

/-! Issues: the defects that an audit finds. -/
namespace EnvAudit

inductive Severity
  | error
  | warning
  | info
  | other (name : String)
deriving Repr, DecidableEq, Inhabited

namespace Severity

def name : Severity → String
  | .error => "error"
  | .warning => "warning"
  | .info => "info"
  | .other name => name

def ofName (name : String) : Severity :=
  match name with
  | "error" => .error
  | "warning" => .warning
  | "info" => .info
  | custom => .other custom

end Severity

inductive IssueKind
  | missing
  | unused
  | typeMismatch
  | invalidValue
  | syncDrift
  | secretExposed
  | other (name : String)
deriving Repr, DecidableEq, Inhabited

namespace IssueKind

def name : IssueKind → String
  | .missing => "missing"
  | .unused => "unused"
  | .typeMismatch => "type-mismatch"
  | .invalidValue => "invalid-value"
  | .syncDrift => "sync-drift"
  | .secretExposed => "secret-exposed"
  | .other name => name

def ofName (name : String) : IssueKind :=
  match name with
  | "missing" => .missing
  | "unused" => .unused
  | "type-mismatch" => .typeMismatch
  | "invalid-value" => .invalidValue
  | "sync-drift" => .syncDrift
  | "secret-exposed" => .secretExposed
  | custom => .other custom

def heading : IssueKind → String
  | .missing => "Missing Variables"
  | .unused => "Unused Variables"
  | .typeMismatch => "Type Mismatches"
  | .invalidValue => "Invalid Values"
  | .syncDrift => "Sync Drift"
  | .secretExposed => "Exposed Secrets"
  | .other name => name

end IssueKind

structure Location where
  file : String
  line : Int
  column : Option Nat := none
deriving Repr, DecidableEq, Inhabited

def Location.text (location : Location) : String :=
  location.file ++ ":" ++ toString location.line
    ++ (match location.column with
      | some column => ":" ++ toString column
      | none => "")

structure Issue where
  kind : IssueKind
  severity : Severity
  name : String
  message : String
  location : Option Location := none
  fix : Option String := none
  context : List (String × Json) := []
deriving Repr, Inhabited, BEq

def Location.record (location : Location) : Json :=
  .object ([("file", .text location.file), ("line", .int location.line)]
    ++ (match location.column with
      | some column => [("column", .int column)]
      | none => []))

namespace Issue

def record (issue : Issue) : Json :=
  .object ([("type", .text issue.kind.name), ("severity", .text issue.severity.name), ("variable", .text issue.name),
      ("message", .text issue.message)]
    ++ (match issue.location with
      | some location => [("location", location.record)]
      | none => [])
    ++ (match issue.fix with
      | some fix => [("fix", .text fix)]
      | none => [])
    ++ (if issue.context.isEmpty then [] else [("context", .object issue.context)]))

def count (severity : Severity) (issues : List Issue) : Nat := issues.countP (·.severity == severity)

def byKind (issues : List Issue) : List (IssueKind × List Issue) :=
  (Text.distinct (issues.map (·.kind))).map fun kind => (kind, issues.filter (·.kind == kind))

end Issue
end EnvAudit
