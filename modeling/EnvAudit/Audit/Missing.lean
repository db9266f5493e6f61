import EnvAudit.Config
import EnvAudit.Ignore
import EnvAudit.Issue
import EnvAudit.Usage

/-! Variables that code reads or a rule requires although no file declares them. Each one is reported once: where
code reads it first, or else without a place in the order of the rules. -/
namespace EnvAudit.Missing

def fixFor (name : String) : String := "Add " ++ name ++ "= to your .env file"

def hasDefault (config : Config) (name : String) : Bool :=
  match config.rule? name with
  | some rule => rule.default.isSome
  | none => false

def isRequired (config : Config) (name : String) : Bool :=
  match config.rule? name with
  | some rule => rule.required
  | none => false

def isOpen (declared : List Declaration) (config : Config) (name : String) : Bool :=
  !Declaration.declares declared name && !Ignore.silences config.ignore name .missing

def firstReads (declared : List Declaration) (config : Config) : List Usage → List String → List Usage
  | [], _ => []
  | usage :: rest, reported =>
    if usage.isNamed && !reported.contains usage.name && isOpen declared config usage.name
        && !hasDefault config usage.name then
      usage :: firstReads declared config rest (usage.name :: reported)
    else firstReads declared config rest reported

def ofUsage (config : Config) (usage : Usage) : Issue where
  kind := .missing
  severity := if isRequired config usage.name then .error else .warning
  name := usage.name
  message := "Variable \"" ++ usage.name ++ "\" is used in code but not defined in any .env file"
  location := some ⟨usage.file, usage.line, some usage.column⟩
  fix := some (fixFor usage.name)

def ofRule (name : String) : Issue where
  kind := .missing
  severity := .error
  name
  message := "Required variable \"" ++ name ++ "\" is not defined in any .env file"
  fix := some (fixFor name)

/-- The names that rules require although nothing declares or reads them. -/
def requiredNames (declared : List Declaration) (config : Config) (reported : List String) : List String :=
  (config.rules.filter fun (name, rule) =>
    rule.required && !reported.contains name && isOpen declared config name).map (·.1)

def issues (declared : List Declaration) (used : List Usage) (config : Config) : List Issue :=
  let reads := firstReads declared config used []
  reads.map (ofUsage config) ++ (requiredNames declared config (reads.map (·.name))).map ofRule

structure Summary where
  required : List String
  optional : List String
deriving Repr, DecidableEq

def summary (issues : List Issue) : Summary :=
  let missing := issues.filter (·.kind == .missing)
  ⟨(missing.filter (·.severity == .error)).map (·.name), (missing.filter (·.severity != .error)).map (·.name)⟩

end EnvAudit.Missing
