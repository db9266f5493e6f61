import EnvAudit.Disk
import EnvAudit.Glob.Selection
import EnvAudit.Report
import EnvAudit.Usage.Scan

/-! Scanning the source files of a project. Every chosen file gives its usages or one fault. -/
namespace EnvAudit.Usage

structure Survey where
  usages : List Usage := []
  faults : List ScanFault := []
  filesScanned : Nat := 0
deriving Repr

def chosenFiles (disk : Disk) (root : Path) (included excluded : List String) : Logged (List String) := do
  let globs ← liftM (Glob.globs (included.map String.toList))
  match disk.find? root with
  | .ok (.directory entries) => liftM (Glob.select globs (excluded.map String.toList) entries)
  | _ =>
    Logged.report .debug "env_doctor._scanner.files" ("Scan root does not exist: " ++ root.text)
    return []

def surveyFile (disk : Disk) (root : Path) (framework : Framework) (file : String) : Logged Survey := do
  match disk.readText (root.child file) with
  | .error fault =>
    Logged.report .debug logger ("Error scanning " ++ file ++ ": " ++ fault.message)
    return { faults := [⟨file, fault.message⟩], filesScanned := 1 }
  | .ok text => return { usages := ← scan ⟨file, framework⟩ text, filesScanned := 1 }

def Survey.append (first second : Survey) : Survey :=
  ⟨first.usages ++ second.usages, first.faults ++ second.faults, first.filesScanned + second.filesScanned⟩

/-- Scans the chosen files in order, or none of them when the scan is cancelled before it begins. -/
def survey (disk : Disk) (root : Path) (included excluded : List String) (framework : Framework)
    (isCancelled : Bool) : Logged Survey := do
  let files ← chosenFiles disk root included excluded
  Logged.report .debug logger ("Found " ++ toString files.length ++ " files to scan")
  if isCancelled then
    Logged.report .info logger ("Scan cancelled after 0 of " ++ toString files.length ++ " files")
    return {}
  return (← files.mapM (surveyFile disk root framework)).foldl Survey.append {}

end EnvAudit.Usage
