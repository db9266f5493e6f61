import EnvAudit.Config
import EnvAudit.Json.Writer

/-! The configuration that a new project starts with. -/
namespace EnvAudit.Config

private def texts (items : List String) : Json := .list (items.map .text)

def starter : Json :=
  .object [
    ("envFiles", texts [".env", ".env.local"]),
    ("templateFile", .text ".env.example"),
    ("include", texts ({} : Config).sources),
    ("exclude", texts ["node_modules", "dist", "**/*.test.*"]),
    ("framework", .text "auto"),
    ("variables", .object [
      ("DATABASE_URL", .object [("required", .bool true), ("secret", .bool true), ("pattern", .text "^postgres://")]),
      ("PORT", .object [("type", .text "number"), ("default", .int 3000)]),
      ("NODE_ENV", .object [("enum", texts ["development", "production", "test"])])]),
    ("ignore", .list []),
    ("strict", .bool false),
    ("matrix", .object [("requireConsistency", .text "warn"), ("excludeFromMatrix", .list [])])]

def starterText : String := starter.write (some 2) ++ "\n"

end EnvAudit.Config
