import EnvAudit.Editor.Hover
import EnvAudit.Editor.Word
import EnvAudit.Pattern

/-! The access to an environment object that ends right before the cursor. -/
namespace EnvAudit.Editor

structure Access where
  object : String
  typed : String
deriving Repr, DecidableEq

def accessPatterns : List Pattern :=
  Pattern.table {} ["(process\\.env|import\\.meta\\.env)(?:\\.(\\w*)|\\[\\s*(['\"])(\\w*))$"]

def accessBefore? (line : List Char) (position : Int) : Option Access := do
  let before := String.ofList (line.take (placeIn line position))
  let found ← accessPatterns.findSome? (·.search before)
  let object ← found.group? 1
  let typed ← (found.group? 2).or (found.group? 4)
  return ⟨String.ofList object, String.ofList typed⟩

/-! Names that can be written at the cursor: after an environment object, the declared variables and those with a
rule. -/

structure Completion where
  name : String
  detail : String
  documentation : Option String
deriving Repr, DecidableEq

/-- What is told about a variable besides its place: what its rule says, and its value unless that is empty. -/
def documentationOf (declaration : Option Declaration) (rule : Option Rule) : Option String :=
  let description := rule.bind fun rule => rule.description.filter (· != "")
  match declaration.filter fun d => d.value != "" with
  | none => description
  | some d =>
    let value := Secret.mask d.value (isSecret d rule)
    some (match description with
      | some text => text ++ "\n\n" ++ value
      | none => value)

def completionOf (declared : List Declaration) (rules : List (String × Rule)) (name : String) : Completion :=
  let declaration := Declaration.find? declared name
  { name
    detail := match declaration with
      | some d => d.file ++ ":" ++ toString d.line
      | none => "env-doctor rule"
    documentation := documentationOf declaration (rules.lookup name) }

def completions (declared : List Declaration) (rules : List (String × Rule)) (line : List Char) (position : Int) :
    List Completion :=
  match accessBefore? line position with
  | none => []
  | some access =>
    let names := sortStrings (Text.distinct (Declaration.names declared ++ rules.map (·.1)))
    (names.filter fun name => beginsWith name access.typed).map (completionOf declared rules)

end EnvAudit.Editor
