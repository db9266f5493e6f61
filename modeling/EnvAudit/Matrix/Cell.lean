import EnvAudit.Config
import EnvAudit.Matrix

/-! The state of one variable in one environment, judged by its rule and by what the environment changes in it. -/
namespace EnvAudit.Matrix

def isRequired (rule : Option Rule) (change : Option Override) : Bool :=
  match change.bind (·.required) with
  | some required => required
  | none => (rule.map (·.required)).getD false

def constraintsFor (rule : Option Rule) (change : Option Override) : Constraints :=
  let base := (rule.map (·.constraints)).getD {}
  match change with
  | none => base
  | some o =>
    { type := o.constraints.type.or base.type
      pattern := o.constraints.activePattern?.or base.pattern
      enum := o.constraints.activeEnum?.or base.enum }

def enforcedError? (value environment : String) (change : Option Override) : Option String :=
  match change with
  | none => none
  | some o =>
    match o.mustBe with
    | none => none
    | some exact =>
      if value == exact then none
      else some ((o.message.filter (· != "")).getD ("Value must be \"" ++ exact ++ "\" in " ++ environment))

def violationText : Violation → Except Failure String
  | .type type =>
    match type.expectation? with
    | some expectation => .ok expectation.shortError
    | none => .error (.noExpectation type.name)
  | .pattern _ => .ok "Value does not match required pattern"
  | .enum allowed => .ok ("Value must be one of: " ++ joinWith ", " allowed)

def valueError? (value : String) (rule : Option Rule) (change : Option Override) (environment : String) :
    Except Failure (Option String) :=
  match enforcedError? value environment change with
  | some error => .ok (some error)
  | none => do
    match ← (constraintsFor rule change).violation? value with
    | some violation => return some (← violationText violation)
    | none => return none

def valueWarning? (value : String) (rule : Option Rule) (change : Option Override) (environment : String) :
    Option String :=
  if (enforcedError? value environment change).isSome then none
  else (constraintsFor rule change).warning? value

def absentCell (rule : Option Rule) (change : Option Override) : Cell :=
  if isRequired rule change then { status := .missing, valid := false, error := some "Required variable is missing" }
  else { status := .missing, valid := true }

def declaredCell (declaration : Declaration) (rule : Option Rule) (error : Option String) : Cell where
  status := if error.isSome then .invalid else if declaration.value == "" then .empty else .set
  valid := error.isNone
  value := some declaration.value
  file := some declaration.file
  line := some declaration.line
  error := error
  isSecret := declaration.isSecret || (rule.map (·.secret)).getD false

def cell (declaration : Option Declaration) (rule : Option Rule) (change : Option Override) (environment : String) :
    Except Failure Cell :=
  match declaration with
  | none => .ok (absentCell rule change)
  | some declaration => do
    return declaredCell declaration rule (← valueError? declaration.value rule change environment)

end EnvAudit.Matrix
