import EnvAudit.Config

/-! A second look at a finished configuration. -/
namespace EnvAudit

namespace Constraints

def patternComplaints (c : Constraints) : Except Failure (List String) :=
  match c.activePattern? with
  | none => .ok []
  | some setting => do
    match ← Pattern.tryCompile setting with
    | .ok _ => return []
    | .error message => return ["pattern is not a valid regular expression: " ++ message]

def complaints (c : Constraints) : Except Failure (List String) := do
  return (← c.patternComplaints) ++ (if c.enum == some [] then ["enum must not be empty"] else [])

end Constraints

namespace Config

def entryComplaints (name : String) : Entry Rule → Except Failure (List String)
  | .unread _ => .ok ["Variable \"" ++ name ++ "\": rule must be an object"]
  | .read rule => do
    let own ← rule.constraints.complaints
    let overrides ← rule.environments.mapM fun (environment, o) => do
      return (← o.constraints.complaints).map
        fun text => "Variable \"" ++ name ++ "\" in " ++ environment ++ ": " ++ text
    return own.map (fun text => "Variable \"" ++ name ++ "\": " ++ text) ++ overrides.flatten

def secretComplaints (setting : String) : Except Failure (List String) := do
  match ← Pattern.tryCompile setting with
  | .ok _ => return []
  | .error message =>
    return ["Secret pattern " ++ quotedString setting ++ " is not a valid regular expression: " ++ message]

def complaints (config : Config) : Except Failure (List String) := do
  let files := if config.declarationFiles.isEmpty then ["At least one declaration file must be specified"] else []
  let sources := if config.sources.isEmpty then ["At least one include pattern must be specified"] else []
  let rules ← config.ruleEntries.mapM fun (name, entry) => entryComplaints name entry
  let secrets ← config.secretPatterns.mapM secretComplaints
  return files ++ sources ++ rules.flatten ++ secrets.flatten

end Config
end EnvAudit
