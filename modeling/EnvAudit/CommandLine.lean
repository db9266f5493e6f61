import EnvAudit.Clock
import EnvAudit.CommandLine.Request
import EnvAudit.Config.Check
import EnvAudit.Config.Starter
import EnvAudit.Matrix.Survey
import EnvAudit.Project
import EnvAudit.Report.Grid
import EnvAudit.Report.Record
import EnvAudit.Template

/-! The command line: what a list of arguments does to the files, and what it prints. -/
namespace EnvAudit.CommandLine

structure Written where
  file : Path
  text : String
deriving Repr, DecidableEq

/-- How a command ends: its exit code, what it prints, what it complains about, and the file that it writes. -/
structure Ending where
  code : Nat := 0
  output : String := ""
  complaint : String := ""
  written : Option Written := none
deriving Repr, DecidableEq

def logger : String := "env_doctor.__main__"

def failed (complaint : String) : Ending := { code := 1, complaint := complaint ++ "\n" }

def loadTarget (disk : Disk) (target : Target) : Logged Config := do
  let found ← Config.search disk target.config (.ofString target.directory)
  if let some file := found.file then Logged.report .info logger ("Using config " ++ file.text)
  (← (found.config.complaints : Except Failure (List String))).forM (Logged.report .warning logger)
  return found.config

def auditCode (strict : Bool) (numbers : Statistics) : Nat :=
  if numbers.errors > 0 || strict && numbers.warnings > 0 then 1 else 0

def check (clock : Clock) (disk : Disk) (target : Target) (environment : Option String) (json strict verbose : Bool) :
    Logged Ending := do
  let config ← loadTarget disk target
  let config := match environment.filter (· != "") with
    | some name => config.inEnvironment name
    | none => config
  let findings ← Project.audit disk config
  let root := Path.ofString config.root
  let output :=
    if json then Report.json clock.stamp (some 2) findings ++ "\n"
    else Report.console { verbose } (fun file => (disk.readText (root.child file)).toOption) findings
  return { code := auditCode (config.strict || strict) findings.statistics, output }

def compare (clock : Clock) (disk : Disk) (target : Target) (environments : List String) (json : Bool) :
    Logged Ending := do
  let config ← loadTarget disk target
  let survey := Matrix.survey disk config (.ofString config.root) environments clock.stamp
  tryCatch
    (do
      let comparison ← survey
      let output := if json then comparison.record.write (some 2) ++ "\n" else Report.grid false comparison
      return { code := if comparison.summary.errorCount > 0 then 1 else 0, output })
    fun failure => if failure.isBadValue then return failed ("Error: " ++ failure.message) else throw failure

/-- The variables of a template: those that are declared, and those that are used besides, without a value. -/
def templateVariables (findings : Findings) : List Declaration :=
  let used := (findings.usages.filter Usage.isNamed).map fun usage =>
    ({ name := usage.name, value := "", line := usage.line, file := usage.file } : Declaration)
  (findings.declared ++ used).foldl
    (fun kept next => if Declaration.declares kept next.name then kept else kept ++ [next]) []

def sync (disk : Disk) (target : Target) (writes : Bool) (output : Option String) : Logged Ending := do
  let config ← loadTarget disk target
  let declarations := templateVariables (← Project.audit disk config)
  let text := Template.generate {} declarations
  let named := output.filter (· != "")
  if !writes && named.isNone then return { output := text ++ "\n" }
  let file := (Path.ofString config.root).child (named.getD config.template)
  match disk.writeText file text with
  | .error fault => return failed ("Error writing " ++ file.text ++ ": " ++ fault.message file)
  | .ok _ =>
    return {
      output := "Wrote " ++ toString declarations.length ++ " variable(s) to " ++ file.text ++ "\n"
      written := some ⟨file, text⟩ }

def start (disk : Disk) (directory : String) (force : Bool) : Logged Ending := do
  let place := Path.ofString directory
  if !disk.isDirectory place then return failed ("Error: Not a directory: " ++ place.text)
  let file := place.child "env-doctor.json"
  if disk.contains file && !force then
    return failed ("Error: " ++ file.text ++ " already exists. Use --force to overwrite.")
  match disk.writeText file Config.starterText with
  | .error fault => throw (.unwritable fault file)
  | .ok _ => return { output := "Created " ++ file.text ++ "\n", written := some ⟨file, Config.starterText⟩ }

def Stop.ending : Stop → Ending
  | .help form => { output := form.helpText }
  | .version => { output := "env-doctor " ++ Report.version ++ "\n" }
  | .misuse form fault =>
    { code := 2, complaint := form.usageText ++ form.program ++ ": error: " ++ fault.message ++ "\n" }

def perform (clock : Clock) (disk : Disk) (request : Request) : Logged Ending :=
  match request with
  | .check target environment json strict verbose => check clock disk target environment json strict verbose
  | .compare target environments json => compare clock disk target environments json
  | .sync target writes output => sync disk target writes output
  | .start directory force => start disk directory force
  | .serve => return {}

def printedRecords (clock : Clock) (level : Log.Level) (records : List Log.Record) : String :=
  String.join ((Log.atLeast level records).map fun record =>
    Log.line false record.level.number record.logger clock.seconds clock.milliseconds record.message ++ "\n")

def follow (clock : Clock) (disk : Disk) (order : Order) : Except Failure Ending :=
  match order.request.target?.filter fun target => !disk.isDirectory (.ofString target.directory) with
  | some target => .ok (Stop.misuse programForm (.notDirectory target.directory)).ending
  | none => do
    let (ending, records) := (perform clock disk order.request).outcome
    let ending ← ending
    return { ending with complaint := printedRecords clock order.level records ++ ending.complaint }

def run (clock : Clock) (disk : Disk) (arguments : List String) : Except Failure Ending :=
  match Order.read arguments with
  | .error stop => .ok stop.ending
  | .ok order => follow clock disk order

def Ending.apply (ending : Ending) (disk : Disk) : Disk :=
  match ending.written with
  | some written => ((disk.writeText written.file written.text).toOption).getD disk
  | none => disk

end EnvAudit.CommandLine
