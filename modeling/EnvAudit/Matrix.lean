import EnvAudit.Declaration
import EnvAudit.Issue

/-! The comparison of environments: a grid with a row for every variable and a cell for every environment, and what
is to be said about the rows. -/
namespace EnvAudit.Matrix

structure Environment where
  name : String
  files : List String
  declarations : List Declaration
  description : Option String := none
deriving Repr

inductive CellStatus
  | set
  | empty
  | missing
  | invalid
deriving Repr, DecidableEq, Inhabited

def CellStatus.name : CellStatus → String
  | .set => "set"
  | .empty => "empty"
  | .missing => "missing"
  | .invalid => "invalid"

structure Cell where
  status : CellStatus
  valid : Bool
  value : Option String := none
  file : Option String := none
  line : Option Nat := none
  error : Option String := none
  isSecret : Bool := false
deriving Repr, DecidableEq, Inhabited

inductive FindingKind
  | missing
  | invalid
  | inconsistent
  | differing
deriving Repr, DecidableEq

def FindingKind.name : FindingKind → String
  | .missing => "missing"
  | .invalid => "invalid"
  | .inconsistent => "inconsistent"
  | .differing => "value_mismatch"

structure Finding where
  kind : FindingKind
  severity : Severity
  name : String
  environments : List String
  message : String
  fix : Option String := none
deriving Repr, DecidableEq

inductive Status
  | ok
  | error
  | warning
  | info
deriving Repr, DecidableEq, Inhabited

def Status.name : Status → String
  | .ok => "ok"
  | .error => "error"
  | .warning => "warning"
  | .info => "info"

structure Row where
  name : String
  cells : List (String × Cell)
  status : Status
  findings : List Finding
deriving Repr

def cellOf (cells : List (String × Cell)) (environment : String) : Cell :=
  (cells.lookup environment).getD ⟨.missing, true, none, none, none, none, false⟩

def Row.cell (row : Row) (environment : String) : Cell := cellOf row.cells environment

end EnvAudit.Matrix
