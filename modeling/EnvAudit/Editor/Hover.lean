import EnvAudit.Config
import EnvAudit.Secret
import EnvAudit.Usage

/-! What is told about a variable under the cursor, as marked-up text. Secret values are masked. -/
namespace EnvAudit.Editor

private def strong (label text : String) : String := "**" ++ label ++ "**" ++ text

private def code (text : String) : String := "\x60" ++ text ++ "\x60"

def isSecret (declaration : Declaration) (rule : Option Rule) : Bool :=
  declaration.isSecret || (rule.map (·.secret)).getD false

def declarationLines (declaration : Option Declaration) (rule : Option Rule) : List String :=
  match declaration with
  | none => [strong "Not declared" " in any declaration file"]
  | some d =>
    let value := if d.value == "" then "(empty)" else Secret.mask d.value (isSecret d rule)
    [strong "Value" (": " ++ code value), strong "Declared in" (": " ++ code (d.file ++ ":" ++ toString d.line))]

private def optionalLine (label : String) (text : Option String) : List String :=
  match text.filter (· != "") with
  | some text => [strong label (": " ++ text)]
  | none => []

def ruleLines (rule : Option Rule) : List String :=
  match rule with
  | none => []
  | some rule =>
    optionalLine "Type" (rule.constraints.type.map fun type => code type.name)
      ++ [strong "Required" (": " ++ if rule.required then "yes" else "no")]
      ++ optionalLine "Pattern" (rule.constraints.activePattern?.map code)
      ++ (match rule.constraints.activeEnum? with
        | some allowed => [strong "Allowed values" (": " ++ joinWith ", " allowed)]
        | none => [])
      ++ optionalLine "Documentation"
        ((rule.docsUrl.filter (· != "")).map fun url => "[" ++ url ++ "](" ++ url ++ ")")

def usageLines (usages : List Usage) : List String :=
  let noun := if usages.length == 1 then "time" else "times"
  let files := (Text.distinct (usages.map (·.file))).length
  strong "Used" (": " ++ toString usages.length ++ " " ++ noun ++ " in " ++ toString files ++ " file(s)")
    :: (if usages.any (·.isClientSide) then ["Exposed to client-side code"] else [])

def hoverText (name : String) (declaration : Option Declaration) (rule : Option Rule) (usages : List Usage) : String :=
  let description := match rule.bind fun rule => rule.description.filter (· != "") with
    | some description => [description, ""]
    | none => []
  joinWith "\n" ([strong name "", ""] ++ description ++ declarationLines declaration rule ++ ruleLines rule
    ++ usageLines usages)

end EnvAudit.Editor
