import EnvAudit.Editor.Completion
import EnvAudit.Editor.QuickFix

/-! The requests of an editor in the course of a session. Requests about documents change the workspace; questions
about positions only look at it. -/
namespace EnvAudit.Editor

structure Greeting where
  folders : List String := []
  rootUrl : Option String := none
  rootPath : Option String := none
deriving Repr, DecidableEq

/-- The directory of the project, the first folder of the workspace before all else. -/
def Greeting.folder? (greeting : Greeting) : Option String :=
  match greeting.folders.head?.or (greeting.rootUrl.filter (· != "")) with
  | some url => some (Url.pathText url)
  | none => greeting.rootPath.filter (· != "")

namespace Serving

def logger : String := "env_doctor.server"

def greet (greeting : Greeting) : Serving Unit := do
  report .info logger "Initializing env-doctor language server"
  if let some folder := greeting.folder? then update fun w => { w with folder := some folder }
  report .info logger ("Workspace root: " ++ (← workspace).folder.getD "None")

def edit (disk : Disk) (url : String) (text : List Char) : Serving Unit := do
  update fun w => { w with buffers := Json.setField url text w.buffers }
  analyze disk

def opened (disk : Disk) (url : String) (text : List Char) : Serving Unit := do
  edit disk url text
  report .debug logger ("Opened document: " ++ url)

/-- A document has been changed. Documents that are not open are none of our business. -/
def changed (disk : Disk) (url : String) (changes : List Change) : Serving Unit := do
  if let some text := (← workspace).buffers.lookup url then edit disk url (applyChanges text changes)

def saved (disk : Disk) (url : String) : Serving Unit := do
  let isConfig := Config.fileNames.contains (Url.file url).name
  update fun w => { w with onDisk := none, config := if isConfig then none else w.config }
  if ((← workspace).buffers.lookup url).isSome then analyze disk

def closed (url : String) : Serving Unit := do
  update fun w => { w with buffers := w.buffers.filter (·.1 != url) }
  publish url []

end Serving

structure Hover where
  text : String
  span : Span
deriving Repr, DecidableEq

structure Target where
  url : String
  place : Position
deriving Repr, DecidableEq

namespace Workspace

def line? (workspace : Workspace) (url : String) (line : Nat) : Option (List Char) := do
  (Text.lines (← workspace.buffers.lookup url))[line]?

def wordAt? (workspace : Workspace) (url : String) (position : Position) : Option Word := do
  Editor.wordAt? (← workspace.line? url position.line) position.character

def rules (workspace : Workspace) : List (String × Rule) := (workspace.config.map (·.rules)).getD []

def completions (workspace : Workspace) (url : String) (position : Position) : List Completion :=
  match workspace.line? url position.line with
  | some line => Editor.completions workspace.declared workspace.rules line position.character
  | none => []

def hover? (workspace : Workspace) (url : String) (position : Position) : Option Hover := do
  let word ← workspace.wordAt? url position
  let name := String.ofList word.text
  let declaration := Declaration.find? workspace.declared name
  let rule := workspace.rules.lookup name
  let usages := workspace.usages.filter (·.name == name)
  if declaration.isNone && rule.isNone && usages.isEmpty then none
  let ends : Span := ⟨⟨position.line, word.start.toNat⟩, ⟨position.line, word.stop.toNat⟩⟩
  return ⟨hoverText name declaration rule usages, ends⟩

def definition? (workspace : Workspace) (working : Path) (url : String) (position : Position) : Option Target := do
  let word ← workspace.wordAt? url position
  let declaration ← Declaration.find? workspace.declared (String.ofList word.text)
  let config ← workspace.config
  let file := Path.resolve working ((Path.ofString config.root).child declaration.file)
  return ⟨Url.ofFile file, ⟨declaration.line - 1, 0⟩⟩

end Workspace
end EnvAudit.Editor
