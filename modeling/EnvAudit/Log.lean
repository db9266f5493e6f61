import EnvAudit.Failure

/-! What the program reports about its own work. An operation that may report or fail keeps its records in order,
also when it fails. -/
namespace EnvAudit.Log

inductive Level
  | debug
  | info
  | warning
  | error
  | critical
deriving Repr, DecidableEq, Inhabited

namespace Level

def number : Level → Nat
  | .debug => 10
  | .info => 20
  | .warning => 30
  | .error => 40
  | .critical => 50

def name : Level → String
  | .debug => "DEBUG"
  | .info => "INFO"
  | .warning => "WARNING"
  | .error => "ERROR"
  | .critical => "CRITICAL"

def all : List Level := [.debug, .info, .warning, .error, .critical]

def ofName? (name : String) : Option Level := all.find? (·.name == name)

end Level

structure Record where
  level : Level
  logger : String
  message : String
deriving Repr, DecidableEq

def atLeast (level : Level) (records : List Record) : List Record :=
  records.filter fun r => level.number ≤ r.level.number

end EnvAudit.Log

namespace EnvAudit

abbrev Logged := ExceptT Failure (StateM (List Log.Record))

namespace Logged

def report (level : Log.Level) (logger message : String) : Logged Unit :=
  modifyThe (List Log.Record) (· ++ [⟨level, logger, message⟩])

def outcome {α : Type} (operation : Logged α) : Except Failure α × List Log.Record := operation.run.run []

end Logged
end EnvAudit
