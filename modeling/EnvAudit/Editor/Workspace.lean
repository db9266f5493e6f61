import EnvAudit.Audit
import EnvAudit.Config.Search
import EnvAudit.Declaration.Files
import EnvAudit.Editor.Diagnostic
import EnvAudit.Framework.Detection
import EnvAudit.Url.File
import EnvAudit.Usage.Survey

/-! A workspace as an editor sees it: what is on disk, with the buffers of open documents in place of their files.
Usages on disk are kept until a document is saved. -/
namespace EnvAudit.Editor

/-- Buffers are kept by the URLs of their documents. Nothing is known about the disk before the first analysis. -/
structure Workspace where
  folder : Option String := none
  config : Option Config := none
  framework : Framework := .node
  buffers : List (String × List Char) := []
  sources : List String := []
  onDisk : Option (List Usage) := none
  declared : List Declaration := []
  usages : List Usage := []
  issues : List Issue := []
deriving Repr

structure Publication where
  url : String
  diagnostics : List Diagnostic
deriving Repr, DecidableEq

structure Session where
  workspace : Workspace := {}
  published : List Publication := []
  records : List Log.Record := []
deriving Repr

abbrev Serving := ExceptT Failure (StateM Session)

namespace Serving

def logged {α : Type} (operation : Logged α) : Serving α :=
  ExceptT.mk fun session =>
    let (result, records) := operation.run.run session.records
    (result, { session with records })

def report (level : Log.Level) (logger message : String) : Serving Unit := logged (Logged.report level logger message)

def workspace : Serving Workspace := return (← get).workspace

def update (change : Workspace → Workspace) : Serving Unit :=
  modify fun session => { session with workspace := change session.workspace }

def publish (url : String) (diagnostics : List Diagnostic) : Serving Unit :=
  modify fun session => { session with published := session.published ++ [⟨url, diagnostics⟩] }

end Serving

namespace Workspace

def logger : String := "env_doctor._server.validation"

def root? (workspace : Workspace) (working : Path) : Option Path :=
  ((workspace.config.map (·.root)).or workspace.folder).map fun root => Path.resolve working (.ofString root)

def fileOf? (workspace : Workspace) (working : Path) (url : String) : Option String := do
  let root ← workspace.root? working
  let file ← root.relativeTo? (Url.file url)
  return file.text

def documents (workspace : Workspace) (working : Path) : List (String × List Char) :=
  workspace.buffers.foldl
    (fun found (url, text) =>
      match workspace.fileOf? working url with
      | some file => Json.setField file text found
      | none => found) []

def declarationsIn (disk : Disk) (root : Path) (documents : List (String × List Char)) (file : String) :
    Logged Declarations :=
  let key := (Path.ofString file).text
  match documents.lookup key with
  | some text => (Declaration.parse text key : Except Failure Declarations)
  | none => Declaration.readFile disk root file

def templateIn (disk : Disk) (config : Config) (documents : List (String × List Char)) :
    Logged (Option (List Declaration)) := do
  let root := Path.ofString config.root
  match config.chosenTemplate? with
  | none => return none
  | some file =>
    if (documents.lookup (Path.ofString file).text).isSome || disk.isFile (root.child file) then
      return some (← declarationsIn disk root documents file).declared
    return none

/-- The usages on disk, with those of open source files in the place of what the disk says. -/
def merged (onDisk : List Usage) (opened : List (String × List Usage)) : List Usage :=
  let files := sortStrings (Text.distinct (onDisk.map (·.file) ++ opened.map (·.1)))
  files.flatMap fun file => (opened.lookup file).getD (onDisk.filter (·.file == file))

end Workspace

namespace Serving
open Workspace

def configuration (disk : Disk) : Serving Config := do
  let known ← workspace
  if let some config := known.config then return config
  let found ← logged (Config.search disk none (.ofString (known.folder.getD ".")))
  update fun w => { w with config := some found.config }
  if let some file := found.file then report .info logger ("Using config " ++ file.text)
  let framework ← match found.config.framework with
    | some framework => pure framework
    | none => logged (Framework.detect disk (.ofString found.config.root))
  update fun w => { w with framework }
  return found.config

def usagesOnDisk (disk : Disk) (config : Config) : Serving (List Usage) := do
  let known ← workspace
  if let some usages := known.onDisk then return usages
  let root := Path.ofString config.root
  let sources ← logged (Usage.chosenFiles disk root config.sources config.exclude)
  update fun w => { w with sources }
  let survey ← logged (Usage.survey disk root config.sources config.exclude known.framework false)
  update fun w => { w with onDisk := some survey.usages }
  survey.faults.forM fun fault => report .debug logger (fault.file ++ ": " ++ fault.message)
  return survey.usages

def currentUsages (disk : Disk) (config : Config) (documents : List (String × List Char)) : Serving (List Usage) := do
  let onDisk ← usagesOnDisk disk config
  let known ← workspace
  let opened ← (documents.filter fun (file, _) => known.sources.contains file).mapM fun (file, text) =>
    return (file, ← logged (Usage.scan ⟨file, known.framework⟩ (String.ofList text)))
  return merged onDisk opened

def publishAll (disk : Disk) : Serving Unit := do
  let known ← workspace
  known.buffers.forM fun (url, text) =>
    publish url (((known.fileOf? disk.working url).map fun file => diagnostics known.issues file text).getD [])

def analyze (disk : Disk) : Serving Unit := do
  let config ← configuration disk
  let root := Path.ofString config.root
  let documents := (← workspace).documents disk.working
  let declarations ← logged (config.declarationFiles.mapM (declarationsIn disk root documents))
  let declared := Declaration.keepLast (declarations.flatMap (·.declared))
  update fun w => { w with declared }
  let usages ← currentUsages disk config documents
  update fun w => { w with usages }
  let template ← logged (templateIn disk config documents)
  let issues ← logged (Audit.run declared usages config template (some (← workspace).framework))
  update fun w => { w with issues }
  report .debug logger ("Workspace analysis produced " ++ toString issues.length ++ " issue(s)")
  publishAll disk

end Serving
end EnvAudit.Editor
