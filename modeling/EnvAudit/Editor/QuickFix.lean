import EnvAudit.Editor.Workspace

/-! Quick fixes: edits that declare missing variables in the first declaration file. -/
namespace EnvAudit.Editor

structure Hint where
  code : Option String
  name : Option String
deriving Repr, DecidableEq

inductive Edit
  | insert (url : String) (place : Position) (text : String)
  | create (url : String) (text : String)
deriving Repr, DecidableEq

structure QuickFix where
  title : String
  hint : Nat
  edit : Edit
deriving Repr, DecidableEq

def endOf (text : List Char) : Position :=
  let lines := Text.lines text
  ⟨lines.length - 1, (lines.getLast?.getD []).length⟩

def addLine (url : String) (content : List Char) (line : String) : Edit :=
  let isOpen := !content.isEmpty && content.getLast? != some '\n'
  .insert url (endOf content) ((if isOpen then "\n" else "") ++ line ++ "\n")

def lenientText? (disk : Disk) (file : Path) : Option (List Char) :=
  match disk.find? file with
  | .ok (.file bytes) => some (Text.normalizeNewlines (Text.decodeUtf8Lossy bytes))
  | _ => none

/-- The hints that are worth a fix: about missing variables that nothing declares, each variable once. -/
def fixable (declared : List Declaration) : List (Nat × Hint) → List String → List (Nat × String)
  | [], _ => []
  | (number, hint) :: rest, done =>
    match hint.name.filter fun name => hint.code == some "missing" && !done.contains name with
    | some name =>
      if Declaration.declares declared name then fixable declared rest done
      else (number, name) :: fixable declared rest (name :: done)
    | none => fixable declared rest done

namespace Workspace

def quickFixes (workspace : Workspace) (disk : Disk) (hints : List Hint) : List QuickFix :=
  match workspace.config, workspace.config.bind (·.declarationFiles.head?) with
  | some config, some target =>
    let file := Path.resolve disk.working ((Path.ofString config.root).child target)
    let url := Url.ofFile file
    let edit := fun (line : String) =>
      match (workspace.buffers.lookup url).or (lenientText? disk file) with
      | some content => addLine url content line
      | none => .create url (line ++ "\n")
    (fixable workspace.declared ((List.range hints.length).zip hints) []).map fun (hint, name) =>
      ⟨"Add " ++ name ++ "= to " ++ target, hint, edit (name ++ "=")⟩
  | _, _ => []

end Workspace
end EnvAudit.Editor
