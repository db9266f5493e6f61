import EnvAudit.Config
import EnvAudit.Ignore
import EnvAudit.Issue
import EnvAudit.Secret

/-! Secrets that stand with a real value in a declaration file. -/
namespace EnvAudit.Exposure

def isMarked (config : Config) (name : String) : Bool :=
  match config.rule? name with
  | some rule => rule.secret
  | none => false

def isFoundBy (further : List Pattern) (declaration : Declaration) : Bool :=
  further.any fun pattern => pattern.occursIn declaration.name || pattern.occursIn declaration.value

def isTelling (config : Config) (further : List Pattern) (declaration : Declaration) : Bool :=
  (Secret.nameSignOf? declaration.name).isSome || (Secret.valueSignOf? declaration.value).isSome
    || isFoundBy further declaration || isMarked config declaration.name

def isExposed (config : Config) (further : List Pattern) (declaration : Declaration) : Bool :=
  declaration.value != "" && !Ignore.silences config.ignore declaration.name .secret
    && isTelling config further declaration
    && !Secret.isPlaceholder Secret.secretPlaceholderPatterns declaration.value

/-- The provider that the name tells, or else the value. -/
def provider? (declaration : Declaration) : Option String :=
  ((Secret.nameSignOf? declaration.name).bind (·.provider)).or
    ((Secret.valueSignOf? declaration.value).bind (·.provider))

def kind? (declaration : Declaration) : Option String := (Secret.valueSignOf? declaration.value).map (·.kind)

private def textOrNull (s : Option String) : Json :=
  match s with
  | some s => .text s
  | none => .null

def ofDeclaration (declaration : Declaration) : Issue where
  kind := .secretExposed
  severity := .error
  name := declaration.name
  message := "Variable \"" ++ declaration.name ++ "\" appears to be a secret"
    ++ (match provider? declaration with
      | some provider => " (" ++ provider ++ ")"
      | none => "")
    ++ (match kind? declaration with
      | some kind => " - detected as " ++ kind
      | none => "")
    ++ ". Consider using a secure vault or removing from version control."
  location := some ⟨declaration.file, declaration.line, none⟩
  fix := some "Use environment-specific configuration or a secrets manager"
  context := [("provider", textOrNull (provider? declaration)), ("secret_type", textOrNull (kind? declaration)),
    ("value_preview", .text (Secret.redact declaration.value))]

def issuesWith (further : List Pattern) (declared : List Declaration) (config : Config) : List Issue :=
  (declared.filter (isExposed config further)).map ofDeclaration

def issues (declared : List Declaration) (config : Config) : Except Failure (List Issue) := do
  return issuesWith (← config.secretExpressions) declared config

def providers (issues : List Issue) : List String :=
  issues.filterMap fun issue => (issue.context.lookup "provider").bind Json.text?

def advice (issues : List Issue) : List String :=
  let exposed := issues.filter (·.kind == .secretExposed)
  if exposed.isEmpty then []
  else
    ["Add .env files to .gitignore to prevent committing secrets",
      "Consider using a secrets manager like AWS Secrets Manager, HashiCorp Vault, or Doppler",
      "Use .env.example with placeholder values for documentation",
      "Enable git pre-commit hooks to scan for secrets before committing"]
    ++ (if (providers exposed).contains "AWS" then
        ["Consider using AWS IAM roles instead of access keys where possible"] else [])
    ++ (if (providers exposed).contains "Stripe" then
        ["Use Stripe restricted API keys with minimal permissions in production"] else [])

end EnvAudit.Exposure
