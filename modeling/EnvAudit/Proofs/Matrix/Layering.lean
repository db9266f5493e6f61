import EnvAudit.Matrix.Survey
import EnvAudit.Proofs.Audit.Completion
import EnvAudit.Proofs.Declaration.Layers

/-! The files of an environment are listed twice, for an audit in the environment and for its column in a comparison.
What both read of a variable is the same except in three cases, in which the lists differ and the variable is declared
in the files where they do. -/
namespace EnvAudit.Matrix
open Logged Declaration

/-- Whether an environment is configured, or one of the known ones where none is configured. -/
inductive IsKnown (config : Config) (environment : String) : Prop
  | configured {setting : EnvironmentSetting} (set : config.environment? environment = some setting) :
    IsKnown config environment
  | builtin (unset : config.environments = []) (known : environment ∈ knownEnvironments.map (·.name)) :
    IsKnown config environment

def column? (config : Config) (environment : String) : Option Definition :=
  (definitions config).find? (·.name == environment)

/-- Whether an audit in an environment and the column of it find different values of a variable. -/
inductive Deviates (disk : Disk) (config : Config) (environment name : String) : Prop
  | unlisted {setting : EnvironmentSetting} (set : config.environment? environment = some setting)
    (bare : setting.files = []) {value : String}
    (declared : lastIn? disk (.ofString config.root) name (".env." ++ environment) = some value) :
    Deviates disk config environment name
  | reordered (unset : config.environments = []) (named : environment = "development") {outer inner : String}
    (outermost : lastIn? disk (.ofString config.root) name ".env.local" = some outer)
    (innermost :
      survivor? disk (.ofString config.root) name [".env.development", ".env.development.local"] = some inner)
    (differ : outer ≠ inner) : Deviates disk config environment name
  | overlooked (unset : config.environments = []) (named : environment = "staging" ∨ environment = "production")
    {value : String}
    (declared : lastIn? disk (.ofString config.root) name (".env." ++ environment ++ ".local") = some value)
    (differ : survivor? disk (.ofString config.root) name [".env", ".env." ++ environment] ≠ some value) :
    Deviates disk config environment name

variable {disk : Disk} {config : Config} {environment name : String}

theorem find?_entry {α : Type} (entries : List (String × α)) (name : String) :
    entries.find? (·.1 == name) = (entries.lookup name).map fun value => (name, value) := by
  induction entries with
  | nil => rfl
  | cons entry entries ih =>
    obtain ⟨own, value⟩ := entry
    by_cases same : own = name
    · rw [List.find?_cons_of_pos (by simp [same]), List.lookup_cons, beq_iff_eq.mpr same.symm, same]
      rfl
    · rw [List.find?_cons_of_neg (by simp [same]), ih, List.lookup_cons, beq_false_of_ne (Ne.symm same)]

theorem environments_ne_nil {setting : EnvironmentSetting} (set : config.environment? environment = some setting) :
    config.environments ≠ [] := by
  intro empty
  rw [Config.environment?, empty] at set
  cases set

theorem column?_configured {setting : EnvironmentSetting} (set : config.environment? environment = some setting) :
    column? config environment =
      some ⟨environment, if setting.files.isEmpty then [".env." ++ environment] else setting.files,
        setting.description⟩ := by
  have configured : ¬ config.environments.isEmpty = true := by simpa using environments_ne_nil set
  obtain ⟨entry, listed, settled⟩ := Option.bind_eq_some_iff.mp set
  have found := find?_entry config.environments environment
  rw [listed] at found
  rw [column?, definitions, if_neg configured, List.find?_map]
  change Option.map _ (config.environments.find? (·.1 == environment)) = _
  rw [found, Option.map_some, Option.map_some]
  dsimp only
  rw [settled]
  rfl

theorem column?_builtin (unset : config.environments = []) :
    column? config environment =
      (knownEnvironments.map fun known => ⟨known.name, known.files, some known.description⟩ : List Definition).find?
        (·.name == environment) := by
  rw [column?, definitions, unset]
  rfl

theorem environment?_builtin (unset : config.environments = []) : config.environment? environment = none := by
  rw [Config.environment?, unset]
  rfl

theorem deviates_iff_configured {setting : EnvironmentSetting}
    (set : config.environment? environment = some setting) :
    Deviates disk config environment name ↔
      setting.files = [] ∧ lastIn? disk (.ofString config.root) name (".env." ++ environment) ≠ none := by
  constructor
  · intro deviates
    cases deviates with
    | unlisted set' bare declared =>
      rw [set] at set'
      cases set'
      exact ⟨bare, by rw [declared]; exact Option.some_ne_none _⟩
    | reordered unset => exact absurd unset (environments_ne_nil set)
    | overlooked unset => exact absurd unset (environments_ne_nil set)
  · intro ⟨bare, present⟩
    obtain ⟨value, declared⟩ := Option.ne_none_iff_exists'.mp present
    exact .unlisted set bare declared

theorem survivor?_eq_iff_configured {setting : EnvironmentSetting}
    (set : config.environment? environment = some setting) (name : String) :
    survivor? disk (.ofString config.root) name setting.files =
        survivor? disk (.ofString config.root) name
          (if setting.files.isEmpty then [".env." ++ environment] else setting.files) ↔
      ¬ Deviates disk config environment name := by
  rw [deviates_iff_configured set]
  by_cases bare : setting.files = []
  · simp only [bare, List.isEmpty_nil, if_true, survivor?_cons, survivor?_nil, Option.none_or, true_and, not_not]
    exact eq_comm
  · rw [if_neg (by simpa using bare)]
    exact iff_of_true rfl fun deviates => bare deviates.1

theorem or_comm_iff {outer inner base : Option String} :
    inner.or (outer.or base) = outer.or (inner.or base) ↔
      ∀ value value', outer = some value → inner = some value' → value = value' := by
  cases outer <;> cases inner <;> simp [eq_comm]

theorem survivor?_eq_iff_development (unset : config.environments = []) (name : String) :
    survivor? disk (.ofString config.root) name [".env", ".env.local", ".env.development", ".env.development.local"] =
        survivor? disk (.ofString config.root) name
          [".env", ".env.development", ".env.development.local", ".env.local"] ↔
      ¬ Deviates disk config "development" name := by
  have audited : survivor? disk (.ofString config.root) name
        [".env", ".env.local", ".env.development", ".env.development.local"] =
      (survivor? disk (.ofString config.root) name [".env.development", ".env.development.local"]).or
        ((lastIn? disk (.ofString config.root) name ".env.local").or
          (lastIn? disk (.ofString config.root) name ".env")) := by
    simp only [survivor?_cons, survivor?_nil, Option.none_or, Option.or_assoc]
  have compared : survivor? disk (.ofString config.root) name
        [".env", ".env.development", ".env.development.local", ".env.local"] =
      (lastIn? disk (.ofString config.root) name ".env.local").or
        ((survivor? disk (.ofString config.root) name [".env.development", ".env.development.local"]).or
          (lastIn? disk (.ofString config.root) name ".env")) := by
    simp only [survivor?_cons, survivor?_nil, Option.none_or, Option.or_assoc]
  rw [audited, compared, or_comm_iff]
  constructor
  · intro agree deviates
    cases deviates with
    | unlisted set => exact environments_ne_nil set unset
    | reordered _ _ outermost innermost differ => exact differ (agree _ _ outermost innermost)
    | overlooked _ named => exact absurd named (by decide)
  · intro alike value value' outermost innermost
    by_contra differ
    exact alike (.reordered unset rfl outermost innermost differ)

/-- A layer that is read by one of two lists only makes a difference exactly when it says something else. -/
theorem survivor?_eq_iff_overlooked (unset : config.environments = [])
    (named : environment = "staging" ∨ environment = "production") (name : String) :
    survivor? disk (.ofString config.root) name
          [".env", ".env." ++ environment, ".env." ++ environment ++ ".local"] =
        survivor? disk (.ofString config.root) name [".env", ".env." ++ environment] ↔
      ¬ Deviates disk config environment name := by
  have audited : survivor? disk (.ofString config.root) name
        [".env", ".env." ++ environment, ".env." ++ environment ++ ".local"] =
      (lastIn? disk (.ofString config.root) name (".env." ++ environment ++ ".local")).or
        (survivor? disk (.ofString config.root) name [".env", ".env." ++ environment]) := by
    simp only [survivor?_cons, survivor?_nil, Option.none_or, Option.or_assoc]
  rw [audited]
  constructor
  · intro same deviates
    cases deviates with
    | unlisted set => exact environments_ne_nil set unset
    | reordered _ development =>
      rw [development] at named
      exact absurd named (by decide)
    | overlooked _ _ declared differ =>
      rw [declared] at same
      exact differ same.symm
  · intro alike
    cases declared : lastIn? disk (.ofString config.root) name (".env." ++ environment ++ ".local") with
    | none => rfl
    | some value =>
      by_contra differ
      exact alike (.overlooked unset named declared fun same => differ same.symm)

theorem survivor?_eq_iff {definition : Definition} (known : IsKnown config environment)
    (column : column? config environment = some definition) (name : String) :
    survivor? disk (.ofString config.root) name (config.inEnvironment environment).declarationFiles =
        survivor? disk (.ofString config.root) name definition.files ↔
      ¬ Deviates disk config environment name := by
  cases known with
  | @configured setting set =>
    have audited : (config.inEnvironment environment).declarationFiles = setting.files := by
      simp only [Config.inEnvironment, set]
    rw [column?_configured set] at column
    cases column
    rw [audited]
    exact survivor?_eq_iff_configured set name
  | builtin unset known =>
    have audited : (config.inEnvironment environment).declarationFiles = Config.layeredFiles environment := by
      simp only [Config.inEnvironment, environment?_builtin unset]
    rw [column?_builtin unset] at column
    rw [audited]
    simp only [knownEnvironments, List.map_cons, List.map_nil, List.mem_cons, List.not_mem_nil, or_false] at known
    rcases known with rfl | rfl | rfl | rfl
    · cases column
      exact survivor?_eq_iff_development unset name
    · cases column
      exact survivor?_eq_iff_overlooked unset (.inl rfl) name
    · cases column
      exact survivor?_eq_iff_overlooked unset (.inr rfl) name
    · cases column
      refine iff_of_true rfl fun deviates => ?_
      cases deviates with
      | unlisted set => exact environments_ne_nil set unset
      | reordered _ named => exact absurd named (by decide)
      | overlooked _ named => exact absurd named (by decide)

/-- What an audit in an environment and the column of it read of a variable is the same unless one of three cases
holds: the environment is configured without files and its own file declares the variable; it is development, and
`.env.local` contradicts the files of development, which an audit puts above it and the column below it; or it is
staging or production, and its local file, which the column does not read, says something else than the others. -/
theorem same_value_iff (known : IsKnown config environment) {definition : Definition}
    (column : column? config environment = some definition) {findings : Findings} {compared : Environment}
    (audited : Gives (Project.audit disk (config.inEnvironment environment)) findings)
    (read : Gives (readEnvironment disk (.ofString config.root) definition) compared) (name : String) :
    value? findings.declared name = value? compared.declarations name ↔ ¬ Deviates disk config environment name := by
  obtain ⟨found, _, _, _, checked, _, declared, _⟩ := Project.parts_of_audit audited
  obtain ⟨_, _, read⟩ := read.of_bind
  obtain ⟨listed, filed, given⟩ := read.of_bind
  cases (yields_pure _).eq_ok given
  rw [declared, value?_readFiles checked, value?_readFiles filed]
  exact survivor?_eq_iff known column name

def stagingDisk : Disk where
  tree := .directory
    [(".env", .file (Text.encodeUtf8 "A=1\n".toList)), (".env.staging.local", .file (Text.encodeUtf8 "A=2\n".toList))]
  working := ⟨"/", []⟩

def stagingConfig : Config := { root := "/", sources := [], exclude := [], framework := some .node }

def stagingDefinition : Definition := ⟨"staging", [".env", ".env.staging"], some "Staging/QA environment"⟩

theorem staging_differs : ∃ findings compared,
    (Project.audit stagingDisk (stagingConfig.inEnvironment "staging")).outcome.1 = .ok findings ∧
    (readEnvironment stagingDisk (.ofString "/") stagingDefinition).outcome.1 = .ok compared ∧
    value? findings.declared "A" ≠ value? compared.declarations "A" := by
  have checks : (Project.audit stagingDisk (stagingConfig.inEnvironment "staging")).outcome.1.toBool = true := by
    decide +kernel
  have reads : (readEnvironment stagingDisk (.ofString "/") stagingDefinition).outcome.1.toBool = true := by
    decide +kernel
  have overridden : lastIn? stagingDisk (.ofString "/") "A" ".env.staging.local" = some "2" := by decide +kernel
  have kept : survivor? stagingDisk (.ofString "/") "A" [".env", ".env.staging"] = some "1" := by decide +kernel
  have deviates : Deviates stagingDisk stagingConfig "staging" "A" := by
    refine .overlooked rfl (.inl rfl) overridden ?_
    change survivor? stagingDisk (.ofString "/") "A" [".env", ".env.staging"] ≠ some "2"
    rw [kept]
    decide
  cases audited : (Project.audit stagingDisk (stagingConfig.inEnvironment "staging")).outcome.1 with
  | error failure =>
    rw [audited] at checks
    cases checks
  | ok findings =>
    cases read : (readEnvironment stagingDisk (.ofString "/") stagingDefinition).outcome.1 with
    | error failure =>
      rw [read] at reads
      cases reads
    | ok compared =>
      have same := same_value_iff (.builtin rfl (by decide)) rfl (gives_of_outcome audited) (gives_of_outcome read) "A"
      exact ⟨findings, compared, rfl, rfl, fun equal => same.mp equal deviates⟩

end EnvAudit.Matrix
