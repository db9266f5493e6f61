import EnvAudit.Matrix

/-! The numbers of a comparison: the rows by status, and the cells of every environment by status. -/
namespace EnvAudit.Matrix

structure Tally where
  total : Nat
  missing : Nat
  invalid : Nat
deriving Repr, DecidableEq

structure Summary where
  totalVariables : Nat
  consistentVariables : Nat
  errorCount : Nat
  warningCount : Nat
  infoCount : Nat
  perEnvironment : List (String × Tally)
deriving Repr, DecidableEq

def countCells (property : Cell → Bool) (rows : List Row) (environment : String) : Nat :=
  rows.countP fun row => property (row.cell environment)

def tally (rows : List Row) (environments : List String) (environment : String) : Tally :=
  let times := environments.count environment
  { total := times * countCells (fun c => c.status == .set || c.status == .empty) rows environment
    missing := times * countCells (fun c => c.status == .missing && !c.valid) rows environment
    invalid := times * countCells (fun c => c.status == .invalid) rows environment }

def summary (rows : List Row) (environments : List String) : Summary where
  totalVariables := rows.length
  consistentVariables := rows.countP (·.status == .ok)
  errorCount := rows.countP (·.status == .error)
  warningCount := rows.countP (·.status == .warning)
  infoCount := rows.countP (·.status == .info)
  perEnvironment := (Text.distinct environments).map fun environment => (environment, tally rows environments environment)

end EnvAudit.Matrix
