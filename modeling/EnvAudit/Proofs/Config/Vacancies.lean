import EnvAudit.Config.Check
import EnvAudit.Proofs.Config.RoundTrip

/-! What a second look finds in a configuration that was loaded. Loading keeps no pattern that cannot be compiled, and
every entry of the rules is one, whatever was written in its place. So the second look finds only what is empty. -/
namespace EnvAudit

inductive Vacancy
  | declarationFiles
  | sources
  | enum (name : String)
  | enumIn (name environment : String)
deriving DecidableEq

def Vacancy.message : Vacancy → String
  | .declarationFiles => "At least one declaration file must be specified"
  | .sources => "At least one include pattern must be specified"
  | .enum name => "Variable \"" ++ name ++ "\": enum must not be empty"
  | .enumIn name environment => "Variable \"" ++ name ++ "\" in " ++ environment ++ ": enum must not be empty"

def Rule.vacancies (name : String) (rule : Rule) : List Vacancy :=
  (if rule.constraints.enum = some [] then [.enum name] else []) ++
    rule.environments.flatMap fun (environment, o) =>
      if o.constraints.enum = some [] then [.enumIn name environment] else []

def Config.vacancies (config : Config) : List Vacancy :=
  (if config.declarationFiles = [] then [.declarationFiles] else []) ++
    (if config.sources = [] then [.sources] else []) ++
    config.rules.flatMap fun (name, rule) => rule.vacancies name

theorem Pattern.tryCompile_of_isPattern {setting : String} (pattern : Config.isPattern setting = true) :
    ∃ compiled, tryCompile setting = .ok (.ok compiled) := by
  rw [Config.isPattern] at pattern
  rw [tryCompile]
  cases found : ofSetting setting with
  | ok compiled => exact ⟨compiled, rfl⟩
  | error fault => simp [found, Except.isOk, Except.toBool] at pattern

namespace Constraints
variable {c : Constraints}

theorem patternComplaints_of_isSound (sound : c.IsSound) : c.patternComplaints = .ok [] := by
  rw [patternComplaints, activePattern?]
  cases found : c.pattern.filter (· != "") with
  | none => rfl
  | some setting =>
    have pattern : c.pattern = some setting := (Option.filter_eq_some_iff.mp found).1
    obtain ⟨compiled, compiles⟩ := Pattern.tryCompile_of_isPattern (sound setting pattern)
    simp only [compiles]
    rfl

theorem complaints_of_isSound (sound : c.IsSound) :
    c.complaints = .ok (if c.enum = some [] then ["enum must not be empty"] else []) := by
  simp only [complaints, patternComplaints_of_isSound sound, beq_iff_eq]
  rfl

end Constraints

namespace Config
variable {config : Config}

theorem entryComplaints_of_isSound {rule : Rule} (sound : rule.IsSound) (name : String) :
    entryComplaints name (.read rule) = .ok ((rule.vacancies name).map Vacancy.message) := by
  have overrides : (rule.environments.mapM fun (environment, o) => do
      return (← o.constraints.complaints).map
        fun text => "Variable \"" ++ name ++ "\" in " ++ environment ++ ": " ++ text) =
      Except.ok (rule.environments.map fun entry =>
        (if entry.2.constraints.enum = some [] then [Vacancy.enumIn name entry.1] else []).map Vacancy.message) := by
    apply Outcome.mapM_of_ok
    intro entry member
    simp only [Constraints.complaints_of_isSound (sound.environments entry member)]
    by_cases empty : entry.2.constraints.enum = some [] <;> simp [empty, Vacancy.message, String.append_assoc]
  refine Outcome.bind_eq_ok.mpr
    ⟨_, Constraints.complaints_of_isSound sound.constraints, Outcome.bind_eq_ok.mpr ⟨_, overrides, ?_⟩⟩
  rw [Rule.vacancies, List.map_append, List.map_flatMap, List.flatMap_def]
  by_cases empty : rule.constraints.enum = some [] <;>
    simp [empty, Vacancy.message, String.append_assoc, pure, Except.pure]

theorem secretComplaints_of_isPattern {setting : String} (pattern : isPattern setting = true) :
    secretComplaints setting = .ok [] := by
  obtain ⟨compiled, compiles⟩ := Pattern.tryCompile_of_isPattern pattern
  simp only [secretComplaints, compiles]
  rfl

theorem rules_of_readEntries {rules : List (String × Rule)} (entries : config.ruleEntries = readEntries rules) :
    config.rules = rules := by
  simp [Config.rules, entries, readEntries, List.filterMap_map, Entry.value?]

/-- Of a configuration that was loaded a second look says what is empty in it, and nothing else. -/
theorem complaints_of_read {value : Json} {directory : Path} {records : List Log.Record}
    (reads : (read value directory).outcome = (.ok config, records)) :
    config.complaints = .ok (config.vacancies.map Vacancy.message) := by
  obtain ⟨loaded, ok, rfl, _⟩ := load_of_read reads
  obtain ⟨rules, entries, sound⟩ := (hasSections_of_load ok).rules
  have secrets : loaded.value.secretPatterns.mapM secretComplaints =
      .ok (loaded.value.secretPatterns.map fun _ => []) := by
    apply Outcome.mapM_of_ok
    intro setting member
    exact secretComplaints_of_isPattern (isPattern_of_load ok setting member)
  have read : (readEntries rules).mapM (fun entry => entryComplaints entry.1 entry.2) =
      .ok (rules.map fun entry => (entry.2.vacancies entry.1).map Vacancy.message) := by
    rw [readEntries, List.mapM_map]
    apply Outcome.mapM_of_ok
    intro entry member
    exact entryComplaints_of_isSound (sound entry member) entry.1
  have found : (loaded.value.placedAt directory).rules = rules := rules_of_readEntries entries
  rw [← entries] at read
  refine Outcome.bind_eq_ok.mpr ⟨_, read, Outcome.bind_eq_ok.mpr ⟨_, secrets, ?_⟩⟩
  rw [Config.vacancies, found, List.map_append, List.map_append, List.map_flatMap, List.flatMap_def]
  cases files : loaded.value.declarationFiles <;> cases sources : loaded.value.sources <;>
    simp [placedAt, files, sources, Vacancy.message, pure, Except.pure]

def hollow : List (String × Json) :=
  [("env-files", .list []), ("include", .list []), ("exclude", .list []),
    ("variables", .object
      [("A", .object [("enum", .list []), ("type", .text "colour"), ("pattern", .text "("),
          ("environments", .object [("test", .object [("enum", .list []), ("pattern", .text "[")]),
            ("staging", .int 5), ("production", .object [("enum", .list [.int 1, .null])])])]),
        ("B", .int 7), ("C", .object [("Enum", .list []), ("pattern", .text "")])]),
    ("secretPatterns", .list [.text "^A_", .text "("])]

theorem complaints_of_read_hollow : ∃ config records,
    (read (.object hollow) ⟨"/", []⟩).outcome = (.ok config, records) ∧
    config.secretPatterns = ["^A_"] ∧
    config.complaints = .ok
      ["At least one declaration file must be specified", "At least one include pattern must be specified",
        "Variable \"A\": enum must not be empty", "Variable \"A\" in test: enum must not be empty",
        "Variable \"C\": enum must not be empty"] := by
  have reads : (read (.object hollow) ⟨"/", []⟩).outcome = (.ok _, _) := rfl
  exact ⟨_, _, reads, rfl, complaints_of_read reads⟩

end Config
end EnvAudit
