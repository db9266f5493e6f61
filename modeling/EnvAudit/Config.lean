import EnvAudit.Constraint
import EnvAudit.Framework

/-! The configuration of a project: which files declare variables, which ones are scanned, what is expected of single
variables, and which environments are compared. -/
namespace EnvAudit

structure Override where
  constraints : Constraints := {}
  required : Option Bool := none
  mustBe : Option String := none
  message : Option String := none
deriving Repr, DecidableEq, Inhabited

structure Rule where
  constraints : Constraints := {}
  required : Bool := false
  secret : Bool := false
  default : Option Json := none
  description : Option String := none
  docsUrl : Option String := none
  environments : List (String × Override) := []
deriving Repr, Inhabited, BEq

structure EnvironmentSetting where
  files : List String := []
  description : Option String := none
  strict : Bool := false
deriving Repr, DecidableEq, Inhabited

inductive Consistency
  | error
  | warn
  | off
deriving Repr, DecidableEq, Inhabited

namespace Consistency

def all : List Consistency := [.error, .warn, .off]

def name : Consistency → String
  | .error => "error"
  | .warn => "warn"
  | .off => "off"

def ofName? (name : String) : Option Consistency := all.find? (·.name == name)

end Consistency

structure MatrixSetting where
  requireConsistency : Consistency := .warn
  excludeFromMatrix : List String := []
deriving Repr, DecidableEq, Inhabited

/-- An entry of a section: a value of the section's kind, or a JSON value that was put there without being read. -/
inductive Entry (α : Type)
  | read (value : α)
  | unread (value : Json)
deriving Repr, BEq

namespace Entry

def value? {α : Type} : Entry α → Option α
  | .read value => some value
  | .unread _ => none

end Entry

structure Config where
  root : String := "."
  declarationFiles : List String := [".env"]
  templateFile : Option String := none
  sources : List String :=
    ["src/**/*.\x7bts,js,tsx,jsx\x7d", "app/**/*.\x7bts,js,tsx,jsx\x7d", "pages/**/*.\x7bts,js,tsx,jsx\x7d"]
  exclude : List String := ["node_modules", "dist", "build", ".next", "**/*.test.*", "**/*.spec.*", "**/__tests__/**"]
  framework : Option Framework := none
  ruleEntries : List (String × Entry Rule) := []
  ignore : List String := []
  strict : Bool := false
  secretPatterns : List String := []
  environments : List (String × Entry EnvironmentSetting) := []
  matrix : Option MatrixSetting := some {}
deriving Repr, Inhabited, BEq

def defaultTemplateFile : String := ".env.example"

namespace Config

/-! An entry that was not read counts as no rule here. A configuration that is loaded has none: they come from values put
into it by hand, for which looking up a rule's fields would stop an analyzer with an error instead. -/

def rule? (config : Config) (name : String) : Option Rule := (config.ruleEntries.lookup name).bind Entry.value?

/-- The rules in the order of the configuration. -/
def rules (config : Config) : List (String × Rule) :=
  config.ruleEntries.filterMap fun (name, entry) => entry.value?.map fun rule => (name, rule)

/-- The template file that is set, unless its name is empty. -/
def chosenTemplate? (config : Config) : Option String := config.templateFile.filter (· != "")

def template (config : Config) : String := config.chosenTemplate?.getD defaultTemplateFile

def environment? (config : Config) (name : String) : Option EnvironmentSetting :=
  (config.environments.lookup name).bind Entry.value?

/-- The patterns for further secrets. Entries that are no patterns are left out. -/
def secretExpressions (config : Config) : Except Failure (List Pattern) := do
  return (← config.secretPatterns.mapM Pattern.tryCompile).filterMap Except.toOption

def secretWarnings (config : Config) : List String :=
  config.secretPatterns.filterMap fun setting =>
    match Pattern.tryCompile setting with
    | .ok (.error message) => some ("Ignoring invalid secret pattern " ++ quotedString setting ++ ": " ++ message)
    | _ => none

end Config

def Rule.override? (rule : Rule) (environment : String) : Option Override := rule.environments.lookup environment

end EnvAudit
