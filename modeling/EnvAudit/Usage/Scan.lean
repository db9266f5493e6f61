import EnvAudit.Log
import EnvAudit.Usage.Fallback
import EnvAudit.Usage.Recognizer

/-! Scanning one source for the variables that it reads. -/
namespace EnvAudit.Usage

/-- The name under which a file is reported: seen from the root if it lies there. -/
def fileName (working root : Path) (path : String) : String :=
  let file := Path.ofString path
  if file.isAbsolute then (((Path.resolve working root).relativeTo? file).getD file).text else file.text

def ofTree (site : Site) (source : String) : Option Script.Node → Except Failure (List Usage)
  | some tree => Recognizer.usages site tree
  | none => .ok (Fallback.usages site source.toList)

def ofSource (site : Site) (source : String) : Except Failure (List Usage) :=
  ofTree site source (Script.parse (.ofPath site.file) source.toList)

def logger : String := "env_doctor._scanner.code_scanner"

def scan (site : Site) (source : String) : Logged (List Usage) := do
  let tree := Script.parse (.ofPath site.file) source.toList
  if tree.isNone then
    Logged.report .debug logger ("Syntax tree has errors for " ++ site.file ++ ", using regex fallback")
  ofTree site source tree

end EnvAudit.Usage
