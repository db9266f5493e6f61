import EnvAudit.Matrix.Cell
import EnvAudit.NameGlob

/-! The rows of the grid, in the order of the variables' names, and what is found about each of them. -/
namespace EnvAudit.Matrix

def having (property : Cell → Bool) (cells : List (String × Cell)) (environments : List String) : List String :=
  environments.filter fun environment => property (cellOf cells environment)

def Cell.isLacking (cell : Cell) : Bool := cell.status == .missing && !cell.valid

def Cell.isGap (cell : Cell) : Bool := cell.status == .missing && cell.valid

def missingFindings (name : String) (cells : List (String × Cell)) (environments : List String) : List Finding :=
  let lacking := having Cell.isLacking cells environments
  if lacking.isEmpty then []
  else [{
    kind := .missing
    severity := .error
    name
    environments := lacking
    message := "Required variable is missing in " ++ joinWith ", " lacking
    fix := some ("Add " ++ name ++ "= to the .env files for these environments") }]

def invalidFindings (name : String) (cells : List (String × Cell)) (environments : List String) : List Finding :=
  (having (·.status == .invalid) cells environments).map fun environment => {
    kind := .invalid
    severity := .error
    name
    environments := [environment]
    message := ((cellOf cells environment).error.filter (· != "")).getD ("Invalid value in " ++ environment) }

def gapFindings (consistency : Consistency) (name : String) (cells : List (String × Cell))
    (environments : List String) : List Finding :=
  let present := having (·.status == .set) cells environments
  let gaps := having Cell.isGap cells environments
  if present.isEmpty || gaps.isEmpty || consistency == .off then []
  else [{
    kind := .inconsistent
    severity := if consistency == .error then .error else .warning
    name
    environments := gaps
    message := "Variable is missing in " ++ joinWith ", " gaps ++ " but defined in " ++ joinWith ", " present
    fix := some ("Add " ++ name ++ "= to the missing environments or remove from all") }]

/-- The variables whose values differ on purpose. -/
def expectedToDiffer : List String := ["NODE_ENV", "ENVIRONMENT"]

def distinctValues (cells : List (String × Cell)) (environments : List String) : List (Option String) :=
  Text.distinct ((having (·.status == .set) cells environments).map fun environment => (cellOf cells environment).value)

def differingFindings (rule : Option Rule) (name : String) (cells : List (String × Cell))
    (environments : List String) : List Finding :=
  let isSecret := (rule.map (·.secret)).getD false || environments.any fun e => (cellOf cells e).isSecret
  if (distinctValues cells environments).length ≤ 1 || isSecret || expectedToDiffer.contains name then []
  else [{
    kind := .differing
    severity := .info
    name
    environments
    message := "Value differs across environments (may be intentional)" }]

def consistencyOf (config : Config) : Consistency := (config.matrix.map (·.requireConsistency)).getD .warn

def findings (config : Config) (rule : Option Rule) (name : String) (cells : List (String × Cell))
    (environments : List String) : List Finding :=
  missingFindings name cells environments ++ invalidFindings name cells environments
    ++ gapFindings (consistencyOf config) name cells environments ++ differingFindings rule name cells environments

def worst (findings : List Finding) : Status :=
  if findings.any (·.severity == .error) then .error
  else if findings.any (·.severity == .warning) then .warning
  else if findings.any (·.severity == .info) then .info
  else .ok

def cellsOf (rule : Option Rule) (name : String) :
    List Environment → List (String × Cell) → Except Failure (List (String × Cell))
  | [], done => .ok done
  | environment :: rest, done => do
    let change := rule.bind fun rule => rule.override? environment.name
    let next ← cell (Declaration.find? environment.declarations name) rule change environment.name
    cellsOf rule name rest (Json.setField environment.name next done)

def rowOf (config : Config) (environments : List Environment) (name : String) : Except Failure Row := do
  let rule := config.rule? name
  let cells ← cellsOf rule name environments []
  let found := findings config rule name cells (environments.map (·.name))
  return ⟨name, cells, worst found, found⟩

def names (environments : List Environment) (config : Config) (exclude : List String) : List String :=
  (sortStrings (Text.distinct
    (environments.flatMap (fun e => Declaration.names e.declarations) ++ config.ruleEntries.map (·.1)))).filter
      fun name => !exclude.any (NameGlob.covers · name)

def rows (environments : List Environment) (config : Config) (exclude : List String) : Except Failure (List Row) :=
  (names environments config exclude).mapM (rowOf config environments)

def warnings (environments : List Environment) (config : Config) (exclude : List String) : List String :=
  (names environments config exclude).flatMap fun name =>
    environments.filterMap fun environment => do
      let rule ← config.rule? name
      let declaration ← Declaration.find? environment.declarations name
      valueWarning? declaration.value (some rule) (rule.override? environment.name) environment.name

end EnvAudit.Matrix
