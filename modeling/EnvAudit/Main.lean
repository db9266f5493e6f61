import EnvAudit.CommandLine
import EnvAudit.CommandLine.Scope
import Std.Time.DateTime.Timestamp

/-! The program: reads the part of the disk that a command line looks at, runs the command line on it, and carries
out how it ends. -/
namespace EnvAudit.Program
open CommandLine

def readBytes? (file : Path) : IO (Option (List Nat)) := do
  try return some ((← IO.FS.readBinFile file.text).toList.map UInt8.toNat)
  catch _ => return none

def addFile (disk : Disk) (file : Path) : IO Disk := do
  let file := Path.resolve disk.working file
  match ← readBytes? file with
  | some bytes => return { disk with tree := FileTree.put (.file bytes) file.components disk.tree }
  | none => return disk

def listing (directory : Path) : IO (List (String × Bool)) := do
  try
    let entries ← (← IO.FS.realPath directory.text).readDir
    entries.toList.mapM fun entry => return (entry.fileName, ← entry.path.isDir)
  catch _ => return []

def addDirectory (disk : Disk) (directory : Path) : IO Disk := do
  let directory := Path.resolve disk.working directory
  let isThere ← try (← IO.FS.realPath directory.text).isDir catch _ => pure false
  if !isThere then return disk
  let add := fun (disk : Disk) (names : List String) (content : FileTree) =>
    if (FileTree.at? names disk.tree).isSome then disk
    else { disk with tree := FileTree.put content names disk.tree }
  let base := add disk directory.components (.directory [])
  return (← listing directory).foldl (fun disk (name, isDirectory) =>
    add disk (directory.components ++ [name]) (if isDirectory then .directory [] else .file [])) base

/-- Puts the sources below a directory onto a disk. Paths are at most as deep as the given number. -/
def addSources (selection : Selection) : Nat → String → Disk → IO Disk
  | 0, _, disk => return disk
  | depth + 1, above, disk => do
    let directory := selection.root.child above
    let disk ← addDirectory disk directory
    (← listing directory).foldlM (fun disk (name, isDirectory) => do
      let path := above ++ name
      if isDirectory then
        if selection.enters path then addSources selection depth (path ++ "/") disk else return disk
      else if selection.keeps path then addFile disk (directory.child name)
      else return disk) disk

def addScope (disk : Disk) (scope : Scope) : IO Disk := do
  let disk ← scope.directories.foldlM addDirectory disk
  let disk ← scope.files.foldlM addFile disk
  match scope.sources with
  | some selection => addSources selection (FileTree.walkLimit + 2) "" disk
  | none => return disk

def load (working : Path) (order : Order) : IO Disk := do
  let first ← addScope ⟨.directory [], working⟩ (order.firstScope working)
  addScope first (order.secondScope first)

def now : IO Clock := do
  let nanoseconds := (← Std.Time.Timestamp.now).toNanosecondsSinceUnixEpoch.val
  return ⟨nanoseconds.fdiv 1000000000, (nanoseconds.fmod 1000000000).toNat / 1000⟩

def finish : Except Failure Ending → IO UInt32
  | .error failure => do
    IO.eprintln failure.message
    return 1
  | .ok ending => do
    if let some written := ending.written then IO.FS.writeFile written.file.text written.text
    IO.print ending.output
    IO.eprint ending.complaint
    return ending.code.toUInt32

end EnvAudit.Program

open EnvAudit CommandLine Program in
def main (arguments : List String) : IO UInt32 := do
  match Order.read arguments with
  | .error stop => finish (.ok stop.ending)
  | .ok order =>
    let working := Path.ofString (← IO.currentDir).toString
    finish (follow (← now) (← load working order) order)
