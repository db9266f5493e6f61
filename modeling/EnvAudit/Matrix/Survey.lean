import EnvAudit.Config.Environment
import EnvAudit.Declaration.Files
import EnvAudit.Matrix.Record
import EnvAudit.Matrix.Row
import EnvAudit.Matrix.Summary
import EnvAudit.Text.Letter

/-! The comparison of a project's environments from their files. -/
namespace EnvAudit.Matrix

def logger : String := "env_doctor.matrix"

structure Definition where
  name : String
  files : List String
  description : Option String
deriving Repr, DecidableEq

def definitions (config : Config) : List Definition :=
  if config.environments.isEmpty then
    knownEnvironments.map fun known => ⟨known.name, known.files, some known.description⟩
  else
    config.environments.map fun (name, entry) =>
      let setting := entry.value?.getD {}
      ⟨name, if setting.files.isEmpty then [".env." ++ name] else setting.files, setting.description⟩

def chosen (wanted : List String) (all : List Definition) : List Definition :=
  if wanted.isEmpty then all else all.filter fun definition => wanted.contains definition.name

def readEnvironment (disk : Disk) (root : Path) (definition : Definition) : Logged Environment := do
  Logged.report .debug logger ("Parsing " ++ definition.name ++ ": " ++ joinWith ", " definition.files)
  let found ← Declaration.readFiles disk root definition.files
  return ⟨definition.name, definition.files, found.declared, definition.description⟩

def Environment.record (environment : Environment) : Json :=
  .object [("description", match environment.description with
      | some text => .text text
      | none => .null),
    ("files", Json.ofStrings environment.files), ("variable_count", .int environment.declarations.length)]

def excluded (config : Config) : List String := (config.matrix.map (·.excludeFromMatrix)).getD []

def survey (disk : Disk) (config : Config) (root : Path) (wanted : List String) (timestamp : String) :
    Logged Comparison := do
  let definitions := chosen wanted (definitions config)
  if definitions.isEmpty then throw .noEnvironments
  let names := definitions.map (·.name)
  Logged.report .debug logger ("Analyzing environments: " ++ joinWith ", " names)
  let environments ← definitions.mapM (readEnvironment disk root)
  (warnings environments config (excluded config)).forM
    (Logged.report .warning "env_doctor._analyzer.validation")
  let rows ← rows environments config (excluded config)
  return {
    environments := names
    information := environments.map fun environment => (environment.name, environment.record)
    rows
    summary := summary rows names
    timestamp }

def otherEndings : List String := ["local", "example", "sample", "template"]

def environmentOfFile? (file : String) : Option String :=
  match Text.dropStart? ".env.".toList (Text.dropEnding ['\n'] file.toList) with
  | none => none
  | some ending =>
    let name := if Text.dropEnding ".local".toList ending == [] then ending else Text.dropEnding ".local".toList ending
    if !name.isEmpty && name.all Text.isWordChar && !otherEndings.contains (String.ofList name) then
      some (String.ofList name)
    else none

def detect (disk : Disk) (root : Path) : List String :=
  let files := disk.names root
  let told := files.filterMap environmentOfFile?
  let plain := if files.contains ".env" || files.contains ".env.local" then ["development"] else []
  sortStrings (Text.distinct (told ++ plain))

end EnvAudit.Matrix
