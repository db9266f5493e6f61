import EnvAudit.Config.Loader
import EnvAudit.Disk
import EnvAudit.Toml

/-! Finding the configuration of a project: the file that was asked for, else the nearest configuration file of the
project or of a directory above it, else the section of the project's description or of its package description. -/
namespace EnvAudit.Config

def fileNames : List String := ["env-doctor.json", ".env-doctorrc", ".env-doctorrc.json"]

def sectionName : String := "env-doctor"

structure Found where
  config : Config
  file : Option Path := none
deriving Repr

def readJson? (disk : Disk) (file : Path) : Logged (Option Json) := do
  let failed := fun (reason : String) =>
    Logged.report .warning logger ("Failed to load config from " ++ file.text ++ ": " ++ reason)
  match disk.readText file with
  | .error fault =>
    failed fault.message
    return none
  | .ok text =>
    match Json.read text.toList with
    | .ok value => return some value
    | .error .tooDeep => throw .nestingTooDeep
    | .error refusal =>
      failed (refusal.message text.toList)
      return none

/-- The object in a configuration file; anything else counts as an empty one. -/
def readObject (disk : Disk) (file : Path) : Logged Json := do
  match ← readJson? disk file with
  | some (.object fields) => return .object fields
  | _ =>
    Logged.report .warning logger ("Config file " ++ file.text ++ " must contain a JSON object")
    return .object []

def readFile (disk : Disk) (file directory : Path) : Logged Found := do
  return ⟨← read (← readObject disk file) directory, some file⟩

def findAbove? (disk : Disk) (root : Path) (name : String) : Option Path :=
  (root.withParents.map fun directory => directory.child name).find? disk.isFile

def findFile? (disk : Disk) (root : Path) : Option Path := fileNames.findSome? (findAbove? disk root)

def toolSection? (table : Toml.Table) : Except Failure (Option Json) :=
  match table.lookup "tool" with
  | none => .ok none
  | some (.table tools) =>
    match tools.lookup sectionName with
    | some (.table fields) => .ok (some (Toml.Value.table fields).toJson)
    | _ => .ok none
  | some value => .error (.toolNotTable value.kindName)

def readDescription? (disk : Disk) (file : Path) : Logged (Option Json) := do
  if !disk.isFile file then return none
  let failed := fun (reason : String) =>
    Logged.report .warning logger ("Failed to read " ++ file.text ++ ": " ++ reason)
  match disk.readText file with
  | .error fault =>
    failed fault.message
    return none
  | .ok text =>
    match Toml.read text.toList with
    | .ok table => toolSection? table
    | .error .tooDeep => throw .nestingTooDeep
    | .error (.longNumber digits) => throw (.numberTooLong digits)
    | .error (.fault flaw offset) =>
      failed (flaw.message text.toList offset)
      return none

def readPackage? (disk : Disk) (file : Path) : Logged (Option Json) := do
  if !disk.isFile file then return none
  return ((← readJson? disk file).bind (·.field? sectionName)).filter Json.isObject

def readChosen (disk : Disk) (root : Path) (name : String) : Logged Found := do
  let file := root.child name
  if disk.isFile file then readFile disk file root
  else
    Logged.report .warning logger ("Config file not found: " ++ name)
    return ⟨← read (.object []) root, none⟩

def searchFrom (disk : Disk) (root : Path) : Logged Found := do
  if let some file := findFile? disk root then
    Logged.report .debug logger ("Found config at " ++ file.text)
    return ← readFile disk file file.parent
  let description := root.child "pyproject.toml"
  if let some fields ← readDescription? disk description then
    Logged.report .debug logger "Found config in pyproject.toml"
    return ⟨← read fields root, some description⟩
  let package := root.child "package.json"
  if let some fields ← readPackage? disk package then
    Logged.report .debug logger "Found config in package.json"
    return ⟨← read fields root, some package⟩
  Logged.report .debug logger "No config found, using defaults"
  return ⟨← read (.object []) root, none⟩

def search (disk : Disk) (chosen : Option String) (root : Path) : Logged Found :=
  let root := Path.resolve disk.working root
  match chosen with
  | some name => readChosen disk root name
  | none => searchFrom disk root

end EnvAudit.Config
