import EnvAudit.Config
import EnvAudit.Ignore
import EnvAudit.Issue
import EnvAudit.Secret
import EnvAudit.Usage

/-! Variables that are declared although no code reads them. -/
namespace EnvAudit.Unused

def runtimeNames : List String :=
  ["NODE_ENV", "PORT", "HOST", "DEBUG", "LOG_LEVEL", "TZ", "CI", "HOME", "PATH", "SHELL", "USER", "TERM"]

/-- The variables that the framework reads, which is the configured one unless another is given. -/
def frameworkNames (config : Config) (framework : Option Framework) : List String :=
  match framework.or config.framework with
  | some framework => framework.ownVariables
  | none => []

def isUnused (used : List Usage) (config : Config) (framework : Option Framework) (declaration : Declaration) : Bool :=
  !(Usage.names used).contains declaration.name && !runtimeNames.contains declaration.name
    && !(frameworkNames config framework).contains declaration.name
    && !Ignore.silences config.ignore declaration.name .unused
    && !Secret.isPlaceholder Secret.placeholderPatterns declaration.value

def ofDeclaration (declaration : Declaration) : Issue where
  kind := .unused
  severity := .warning
  name := declaration.name
  message := "Variable \"" ++ declaration.name ++ "\" is defined in " ++ declaration.file ++ " but never used in code"
  location := some ⟨declaration.file, declaration.line, none⟩
  context := [("value", .text (if declaration.value == "" then "[empty]" else "[set]"))]

def issues (declared : List Declaration) (used : List Usage) (config : Config) (framework : Option Framework) :
    List Issue :=
  (declared.filter (isUnused used config framework)).map ofDeclaration

def count (issues : List Issue) : Nat := issues.countP (·.kind == .unused)

def fileOf (issue : Issue) : String := (issue.location.map (·.file)).getD "unknown"

def byFile (issues : List Issue) : List (String × List String) :=
  let unused := issues.filter (·.kind == .unused)
  (Text.distinct (unused.map fileOf)).map fun file => (file, (unused.filter (fileOf · == file)).map (·.name))

end EnvAudit.Unused
