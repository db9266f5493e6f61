import EnvAudit.Config

/-! The environments of a project and the files that declare their variables, the later ones overriding the earlier
ones. -/
namespace EnvAudit

structure KnownEnvironment where
  name : String
  files : List String
  description : String
deriving Repr, DecidableEq

def knownEnvironments : List KnownEnvironment :=
  [⟨"development", [".env", ".env.development", ".env.development.local", ".env.local"], "Local development"⟩,
    ⟨"staging", [".env", ".env.staging"], "Staging/QA environment"⟩,
    ⟨"production", [".env", ".env.production"], "Production environment"⟩,
    ⟨"test", [".env", ".env.test", ".env.test.local"], "Test environment"⟩]

namespace Config

/-- The files of an environment that a project is analyzed in, when the configuration does not name it. -/
def layeredFiles (environment : String) : List String :=
  match environment with
  | "development" => [".env", ".env.local", ".env.development", ".env.development.local"]
  | "production" => [".env", ".env.production", ".env.production.local"]
  | "test" => [".env", ".env.test", ".env.test.local"]
  | "staging" => [".env", ".env.staging", ".env.staging.local"]
  | other => [".env." ++ other]

def inEnvironment (config : Config) (environment : String) : Config :=
  { config with
    declarationFiles :=
      match config.environment? environment with
      | some setting => setting.files
      | none => layeredFiles environment
    matrix := some (config.matrix.getD {}) }

end Config
end EnvAudit
