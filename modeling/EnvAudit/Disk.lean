import EnvAudit.FileFault
import EnvAudit.FileTree

/-! Files by their paths. A relative path is seen from the working directory. On the way along a path everything has
to be a directory that exists, also where the path goes back up. -/
namespace EnvAudit

structure Disk where
  tree : FileTree
  working : Path
deriving Repr

inductive TextFault
  | file (fault : FileFault) (path : Path)
  | encoding (fault : Text.Utf8Fault)
deriving Repr, DecidableEq

def TextFault.message : TextFault → String
  | .file fault path => fault.message path
  | .encoding fault => fault.message

namespace Disk

def follow (tree : FileTree) (reached : List String) : List String → Except FileFault (List String)
  | [] => .ok reached
  | name :: rest =>
    match tree.at? reached with
    | none => .error .missing
    | some (.file _) => .error .notDirectory
    | some (.directory entries) =>
      if name == ".." then follow tree reached.dropLast rest
      else if (entries.lookup name).isSome then follow tree (reached ++ [name]) rest
      else .error .missing

def locate (disk : Disk) (path : Path) : Except FileFault (List String) :=
  follow disk.tree [] (disk.working.join path).components

def find? (disk : Disk) (path : Path) : Except FileFault FileTree := do
  match disk.tree.at? (← disk.locate path) with
  | some found => return found
  | none => .error .missing

def isFile (disk : Disk) (path : Path) : Bool := ((disk.find? path).toOption.map FileTree.isFile).getD false

def isDirectory (disk : Disk) (path : Path) : Bool :=
  ((disk.find? path).toOption.map FileTree.isDirectory).getD false

def contains (disk : Disk) (path : Path) : Bool := (disk.find? path).toOption.isSome

def names (disk : Disk) (path : Path) : List String :=
  ((disk.find? path).toOption.map fun found => found.entries.map (·.1)).getD []

def textOfBytes (bytes : List Nat) : Except Text.Utf8Fault String :=
  (Text.decodeUtf8 bytes).map fun text => String.ofList (Text.normalizeNewlines text)

def readText (disk : Disk) (path : Path) : Except TextFault String :=
  match disk.find? path with
  | .error fault => .error (.file fault path)
  | .ok (.directory _) => .error (.file .isDirectory path)
  | .ok (.file bytes) => (textOfBytes bytes).mapError .encoding

theorem isFile_of_readText {disk : Disk} {path : Path} {text : String} (ok : disk.readText path = .ok text) :
    disk.isFile path = true := by
  rw [readText] at ok
  rw [isFile]
  cases found : disk.find? path with
  | error fault =>
    rw [found] at ok
    cases ok
  | ok tree =>
    rw [found] at ok
    cases tree with
    | directory entries => cases ok
    | file bytes => rfl

def writeText (disk : Disk) (path : Path) (text : String) : Except FileFault Disk := do
  let whole := disk.working.join path
  let directory ← disk.locate whole.parent
  match disk.tree.at? directory, disk.find? whole with
  | some (.file _), _ => .error .notDirectory
  | _, .ok (.directory _) => .error .isDirectory
  | _, _ =>
    let file := FileTree.file (Text.encodeUtf8 text.toList)
    return { disk with tree := FileTree.put file (directory ++ [whole.name]) disk.tree }

end Disk
end EnvAudit
