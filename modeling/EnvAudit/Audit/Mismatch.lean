import EnvAudit.Config
import EnvAudit.Ignore
import EnvAudit.Issue
import EnvAudit.Secret
import EnvAudit.Usage

/-! Declared values that do not fit. A rule with constraints decides alone; without one the shape that most usages
suggest is expected, and a value of another shape is only worth a warning. -/
namespace EnvAudit.Mismatch

def current? (declared : List Declaration) (name : String) : Option Declaration :=
  declared.reverse.find? (·.name == name)

def usagesOf (used : List Usage) (name : String) : List Usage := used.filter (·.name == name)

def place (declaration : Declaration) : Location := ⟨declaration.file, declaration.line, none⟩

def detail (type : ValueType) (expectation : Expectation) (shown : String) : String :=
  match type with
  | .number | .boolean => " but value \"" ++ shown ++ "\" " ++ expectation.failure
  | .json => " but value " ++ expectation.failure
  | _ => ""

def ofViolation (declaration : Declaration) (shown : String) : Violation → Except Failure Issue
  | .type type =>
    match type.expectation? with
    | none => .error (.noExpectation type.name)
    | some expectation => .ok {
      kind := .typeMismatch
      severity := .error
      name := declaration.name
      message := "Variable \"" ++ declaration.name ++ "\" should be " ++ expectation.description
        ++ detail type expectation shown
      location := some (place declaration)
      fix := some expectation.fix
      context := [("expected", .text type.name), ("value", .text shown)] }
  | .pattern pattern => .ok {
      kind := .invalidValue
      severity := .error
      name := declaration.name
      message := "Value of \"" ++ declaration.name ++ "\" doesn't match required pattern"
      location := some (place declaration)
      context := [("pattern", .text pattern), ("value", .text shown)] }
  | .enum allowed => .ok {
      kind := .invalidValue
      severity := .error
      name := declaration.name
      message := "Value of \"" ++ declaration.name ++ "\" must be one of: " ++ joinWith ", " allowed
      location := some (place declaration)
      context := [("expected", .list (allowed.map .text)), ("actual", .text shown)] }

def byRule? (declaration : Declaration) (rule : Rule) : Except Failure (Option Issue) := do
  match ← rule.constraints.violation? declaration.value with
  | none => return none
  | some violation =>
    let shown := Secret.mask declaration.value (declaration.isSecret || rule.secret)
    return some (← ofViolation declaration shown violation)

def plainBooleans : List String := ["true", "false", "1", "0"]

def complaint? (name value shown usedAt : String) (shape : Shape) : Except Failure (Option (Severity × String)) :=
  let subject := "Variable \"" ++ name ++ "\" is "
  match shape with
  | .number => do
    if (← Shape.ofText value.toList) == some .number then return none
    return some (.warning, subject ++ "used as a number at " ++ usedAt ++ " but value \"" ++ shown
      ++ "\" is not numeric")
  | .boolean => do
    if plainBooleans.contains (String.ofList (Text.lower value.toList)) then return none
    return some (.warning, subject ++ "used as a boolean at " ++ usedAt ++ " but value may not be valid")
  | .json => do
    if ← Json.isWritten value.toList then return none
    return some (.warning, subject ++ "parsed as JSON at " ++ usedAt ++ " but value is not valid JSON")
  | .array => do
    if value.toList.contains ',' then return none
    return some (.info, subject ++ "used as an array at " ++ usedAt ++ " but value doesn't contain comma separators")
  | .string | .other _ => .ok none

def byUsages? (declaration : Declaration) (usages : List Usage) : Except Failure (Option Issue) :=
  match usages, Shape.mostCommon (usages.filterMap (·.shape)) with
  | first :: _, some shape =>
    if declaration.value == "" then .ok none
    else do
      let usedAt := first.file ++ ":" ++ toString first.line
      let shown := Secret.mask declaration.value declaration.isSecret
      match ← complaint? declaration.name declaration.value shown usedAt shape with
      | none => return none
      | some (severity, message) => return some {
        kind := .typeMismatch
        severity
        name := declaration.name
        message
        location := some (place declaration)
        context := [("used_at", .text usedAt), ("inferred_type", .text shape.name)] }
  | _, _ => .ok none

def activeRule? (config : Config) (name : String) : Option Rule := (config.rule? name).filter (·.constraints.isActive)

def subject? (declared : List Declaration) (config : Config) (name : String) : Option Declaration :=
  if Ignore.silences config.ignore name .typeMismatch then none else current? declared name

def ofName? (declared : List Declaration) (used : List Usage) (config : Config) (name : String) :
    Except Failure (Option Issue) :=
  match subject? declared config name with
  | none => .ok none
  | some declaration =>
    match activeRule? config name with
    | some rule => byRule? declaration rule
    | none => byUsages? declaration (usagesOf used name)

def readNames (used : List Usage) : List String := Text.distinct (Usage.names used)

def issues (declared : List Declaration) (used : List Usage) (config : Config) : Except Failure (List Issue) := do
  return (← (readNames used).mapM (ofName? declared used config)).filterMap id

def warnings (declared : List Declaration) (used : List Usage) (config : Config) : List String :=
  (readNames used).filterMap fun name => do
    let declaration ← subject? declared config name
    let rule ← activeRule? config name
    rule.constraints.warning? declaration.value

end EnvAudit.Mismatch
