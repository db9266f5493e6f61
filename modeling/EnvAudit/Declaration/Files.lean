import EnvAudit.Declaration.Parser
import EnvAudit.Disk
import EnvAudit.Log

/-! The declarations of several files. Of the declarations of a name the last one counts, and it stands where it was
found. -/
namespace EnvAudit.Declaration

def logger : String := "env_doctor._scanner.env_parser"

def unreadable (path reason : String) : Declarations := ⟨[], [⟨0, reason, some path⟩]⟩

def readFile (disk : Disk) (root : Path) (path : String) : Logged Declarations := do
  let place := root.child path
  if !disk.isFile place then
    Logged.report .debug logger ("Declaration file not found: " ++ place.text)
    return unreadable path ("File not found: " ++ path)
  match disk.readText place with
  | .error fault => return unreadable path ("Failed to read file: " ++ fault.message)
  | .ok text => parse text.toList path

def readFiles (disk : Disk) (root : Path) (paths : List String) : Logged Declarations := do
  let results ← paths.mapM (readFile disk root)
  return ⟨keepLast (results.flatMap (·.declared)), results.flatMap (·.faults)⟩

end EnvAudit.Declaration
