import EnvAudit.Audit
import EnvAudit.Config.Search
import EnvAudit.Declaration.Files
import EnvAudit.Framework.Detection
import EnvAudit.Usage.Survey

/-! The audit of a whole project: its declarations, its template and its sources are read, and then judged. -/
namespace EnvAudit.Project

def logger : String := "env_doctor.analyzer"

def frameworkOf (disk : Disk) (config : Config) : Logged Framework :=
  match config.framework with
  | some framework => pure framework
  | none => Framework.detect disk (.ofString config.root)

def readTemplate? (disk : Disk) (config : Config) : Logged (Option (List Declaration)) := do
  let root := Path.ofString config.root
  match config.chosenTemplate? with
  | none => return none
  | some file =>
    if disk.isFile (root.child file) then
      return some (← Declaration.readFile disk root file).declared
    Logged.report .debug logger ("Template file " ++ file ++ " not found, skipping sync check")
    return none

def reportFault (fault : DeclarationFault) : Logged Unit :=
  Logged.report .debug logger
    (fault.file.getD "None" ++ ":" ++ toString fault.line ++ ": " ++ fault.message)

def reportTotals (numbers : Statistics) : Logged Unit :=
  Logged.report .info logger
    ("Found " ++ toString numbers.errors ++ " error(s), " ++ toString numbers.warnings ++ " warning(s) in "
      ++ toString numbers.filesScanned ++ " file(s) (" ++ toString numbers.milliseconds ++ "ms)")

def audit (disk : Disk) (config : Config) : Logged Findings := do
  let root := Path.ofString config.root
  let framework ← frameworkOf disk config
  Logged.report .debug logger ("Analyzing " ++ root.text ++ " (framework: " ++ framework.name ++ ")")
  let found ← Declaration.readFiles disk root config.declarationFiles
  found.faults.forM reportFault
  let template ← readTemplate? disk config
  let survey ← Usage.survey disk root config.sources config.exclude framework false
  let issues ← Audit.run found.declared survey.usages config template (some framework)
  let statistics := Statistics.ofIssues issues survey.filesScanned config.declarationFiles.length 0
  reportTotals statistics
  return {
    issues
    declared := found.declared
    usages := survey.usages
    framework := framework.name
    statistics
    template
    declarationFaults := found.faults
    scanFaults := survey.faults }

end EnvAudit.Project
