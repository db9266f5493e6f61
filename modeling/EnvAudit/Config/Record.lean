import EnvAudit.Config

/-! Configurations as JSON values. Fields that are not set are left out. -/
namespace EnvAudit

def Json.ofStrings (items : List String) : Json := .list (items.map .text)

def Json.optional {α : Type} (name : String) (write : α → Json) : Option α → List (String × Json)
  | some value => [(name, write value)]
  | none => []

def Constraints.record (c : Constraints) : List (String × Json) :=
  Json.optional "enum" Json.ofStrings c.enum ++ Json.optional "pattern" .text c.pattern
    ++ Json.optional "type" (fun type => .text type.name) c.type

def Override.record (o : Override) : Json :=
  .object (o.constraints.record ++ Json.optional "message" .text o.message ++ Json.optional "must_be" .text o.mustBe
    ++ Json.optional "required" .bool o.required)

def Rule.record (r : Rule) : Json :=
  .object (r.constraints.record ++ Json.optional "default" id r.default
    ++ Json.optional "description" .text r.description ++ Json.optional "docs_url" .text r.docsUrl
    ++ [("environments", .object (r.environments.map fun (name, o) => (name, o.record))),
      ("required", .bool r.required), ("secret", .bool r.secret)])

def EnvironmentSetting.record (e : EnvironmentSetting) : Json :=
  .object (Json.optional "description" .text e.description
    ++ [("files", Json.ofStrings e.files), ("strict", .bool e.strict)])

def MatrixSetting.record (m : MatrixSetting) : Json :=
  .object [("exclude_from_matrix", Json.ofStrings m.excludeFromMatrix),
    ("require_consistency", .text m.requireConsistency.name)]

def Entry.record {α : Type} (write : α → Json) : Entry α → Json
  | .read value => write value
  | .unread value => value

def Config.record (c : Config) : Json :=
  .object ([("declaration_files", Json.ofStrings c.declarationFiles),
      ("environments", .object (c.environments.map fun (name, e) => (name, e.record EnvironmentSetting.record))),
      ("exclude", Json.ofStrings c.exclude),
      ("framework", .text ((c.framework.map Framework.name).getD "auto")),
      ("ignore", Json.ofStrings c.ignore),
      ("include", Json.ofStrings c.sources)]
    ++ Json.optional "matrix" MatrixSetting.record c.matrix
    ++ [("root", .text c.root), ("secret_patterns", Json.ofStrings c.secretPatterns), ("strict", .bool c.strict)]
    ++ Json.optional "template_file" .text c.templateFile
    ++ [("variables", .object (c.ruleEntries.map fun (name, r) => (name, r.record Rule.record)))])

end EnvAudit
