import EnvAudit.Declaration
import EnvAudit.Ignore
import EnvAudit.Issue

/-! Drift between the declarations and a template: names that stand on one side only, and values that differ. -/
namespace EnvAudit.Drift

def lacking (ignore : List String) (here there : List Declaration) : List Declaration :=
  here.filter fun d => !Declaration.declares there d.name && !Ignore.silences ignore d.name .syncDrift

def ofDeclared (templateFile : String) (declaration : Declaration) : Issue where
  kind := .syncDrift
  severity := .warning
  name := declaration.name
  message := "Variable \"" ++ declaration.name ++ "\" is defined in " ++ declaration.file ++ " but not in "
    ++ templateFile
  location := some ⟨declaration.file, declaration.line, none⟩
  fix := some ("Add " ++ declaration.name ++ "= to " ++ templateFile)

def ofTemplate (templateFile : String) (entry : Declaration) : Issue where
  kind := .syncDrift
  severity := .info
  name := entry.name
  message := "Variable \"" ++ entry.name ++ "\" is in " ++ templateFile ++ " but not defined in any .env file"
  location := some ⟨templateFile, entry.line, none⟩
  fix := some ("Add " ++ entry.name ++ "= to your .env file")

structure Report where
  issues : List Issue
  missingFromTemplate : List String
  missingFromEnv : List String
deriving Repr

def Report.inSync (report : Report) : Bool := report.missingFromTemplate.isEmpty && report.missingFromEnv.isEmpty

def compare (declared template : List Declaration) (templateFile : String) (ignore : List String) : Report :=
  let added := lacking ignore declared template
  let removed := lacking ignore template declared
  ⟨added.map (ofDeclared templateFile) ++ removed.map (ofTemplate templateFile),
    added.map (·.name), removed.map (·.name)⟩

structure Change where
  name : String
  templateValue : String
  value : String
deriving Repr, DecidableEq

structure Changes where
  added : List String
  removed : List String
  changed : List Change
deriving Repr, DecidableEq

def byName (declarations : List Declaration) : List (String × Declaration) :=
  declarations.foldl (fun kept d => Json.setField d.name d kept) []

def change? (template : List (String × Declaration)) (entry : String × Declaration) : Option Change := do
  let there ← template.lookup entry.1
  let here := entry.2
  if there.value == "" || here.value == "" || there.value == here.value || here.isSecret then none
  else some ⟨entry.1, there.value, here.value⟩

def changes (template declared : List Declaration) : Changes :=
  let before := byName template
  let now := byName declared
  { added := (now.map (·.1)).filter fun name => !(before.map (·.1)).contains name
    removed := (before.map (·.1)).filter fun name => !(now.map (·.1)).contains name
    changed := now.filterMap (change? before) }

end EnvAudit.Drift
