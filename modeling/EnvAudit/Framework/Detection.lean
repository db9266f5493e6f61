import EnvAudit.Disk
import EnvAudit.Framework
import EnvAudit.Log

/-! Telling the framework of a project from its files: first by the files that only one framework has, then by the
packages that the project depends on. -/
namespace EnvAudit.Framework

def logger : String := "env_doctor.frameworks"

def findMarkerFile? (disk : Disk) (root : Path) : Option (Framework × String) :=
  (all.flatMap fun framework => framework.configFiles.map fun file => (framework, file)).find?
    fun (_, file) => disk.isFile (root.child file)

def dependencies (package : Json) : List String :=
  ["dependencies", "devDependencies"].flatMap fun section_ =>
    (((package.field? section_).bind Json.fields?).getD []).map (·.1)

def ofDependencies? (names : List String) : Option Framework := (markers.find? fun (name, _) => names.contains name).map (·.2)

def readPackage (disk : Disk) (place : Path) : Logged Json := do
  let failed := fun (reason : String) =>
    Logged.report .debug logger ("Could not read " ++ place.text ++ ": " ++ reason)
  match disk.readText place with
  | .error fault =>
    failed fault.message
    return .object []
  | .ok text =>
    match Json.read text.toList with
    | .ok value => return value
    | .error .tooDeep => throw .nestingTooDeep
    | .error refusal =>
      failed (refusal.message text.toList)
      return .object []

def ofPackage? (disk : Disk) (root : Path) : Logged (Option Framework) := do
  let place := root.child "package.json"
  if !disk.isFile place then return none
  return ofDependencies? (dependencies (← readPackage disk place))

def detect (disk : Disk) (root : Path) : Logged Framework := do
  if let some (framework, file) := findMarkerFile? disk root then
    Logged.report .debug logger ("Detected " ++ framework.displayName ++ " via " ++ file)
    return framework
  if let some framework ← ofPackage? disk root then
    Logged.report .debug logger ("Detected " ++ framework.displayName ++ " via package.json")
    return framework
  Logged.report .debug logger "No specific framework detected, defaulting to Node.js"
  return .node

end EnvAudit.Framework
