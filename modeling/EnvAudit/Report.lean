import EnvAudit.Issue
import EnvAudit.Usage

/-! The result of an audit, as the reports present it. -/
namespace EnvAudit

structure Statistics where
  filesScanned : Nat
  declarationFilesParsed : Nat
  milliseconds : Nat
  errors : Nat
  warnings : Nat
  notes : Nat
deriving Repr, DecidableEq, Inhabited

structure ScanFault where
  file : String
  message : String
deriving Repr, DecidableEq

structure Findings where
  issues : List Issue
  declared : List Declaration
  usages : List Usage
  framework : String
  statistics : Statistics
  template : Option (List Declaration) := none
  declarationFaults : List DeclarationFault := []
  scanFaults : List ScanFault := []
deriving Repr

def Statistics.ofIssues (issues : List Issue) (filesScanned declarationFilesParsed milliseconds : Nat) : Statistics :=
  { filesScanned, declarationFilesParsed, milliseconds
    errors := Issue.count .error issues
    warnings := Issue.count .warning issues
    notes := Issue.count .info issues }

namespace Report

def version : String := "0.1.0"

end Report
end EnvAudit
