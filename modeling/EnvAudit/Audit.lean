import EnvAudit.Audit.Drift
import EnvAudit.Audit.Exposure
import EnvAudit.Audit.Mismatch
import EnvAudit.Audit.Missing
import EnvAudit.Audit.Unused
import EnvAudit.Log

/-! The audit of declarations against usages: all analyses one after another, each independent of the others. -/
namespace EnvAudit.Audit

def driftIssues (declared : List Declaration) (config : Config) : Option (List Declaration) → List Issue
  | some template => (Drift.compare declared template config.template config.ignore).issues
  | none => []

def issues (declared : List Declaration) (used : List Usage) (config : Config) (template : Option (List Declaration))
    (framework : Option Framework) : Except Failure (List Issue) := do
  let mismatched ← Mismatch.issues declared used config
  let exposed ← Exposure.issues declared config
  return Missing.issues declared used config ++ Unused.issues declared used config framework ++ mismatched ++ exposed
    ++ driftIssues declared config template

def run (declared : List Declaration) (used : List Usage) (config : Config) (template : Option (List Declaration))
    (framework : Option Framework) : Logged (List Issue) := do
  (Mismatch.warnings declared used config).forM (Logged.report .warning "env_doctor._analyzer.validation")
  config.secretWarnings.forM (Logged.report .warning "env_doctor.config")
  let found ← issues declared used config template framework
  Logged.report .debug "env_doctor._analyzer" ("Analyzers produced " ++ toString found.length ++ " issue(s)")
  return found

end EnvAudit.Audit
