import EnvAudit.Proofs.Config.Search
import EnvAudit.Proofs.Config.SecretList

/-! What remains of a configuration that is cleaned is read without a warning and gives the same, except where the last
list of patterns for secrets is refused as a whole. -/
namespace EnvAudit.Config

def SameButPatterns (a b : Config) : Prop := ∃ patterns, b = { a with secretPatterns := patterns }

theorem set?_of_sameButPatterns {key : String} (other : key ≠ "secret_patterns") (value : Json) (old : Config)
    (patterns : List String) : set? key value { old with secretPatterns := patterns } =
      (set? key value old).map (·.map fun new => { new with secretPatterns := patterns }) := by
  have twice {α : Type} (result : Except Refusal α) (f : α → Config) :
      (result.map f).map (fun new => { new with secretPatterns := patterns }) =
        result.map fun value => { f value with secretPatterns := patterns } := by cases result <;> rfl
  unfold set?
  split
  case h_9 => exact absurd rfl other
  case h_10 => rfl
  all_goals rw [Option.map_some, twice]

theorem loadPlainField_settles {key path : String} {value : Json} {old : Config} {loaded : Loaded Config}
    (other : key ≠ "secret_patterns") (ok : loadPlainField set? key path value old = .ok loaded)
    (patterns : List String) : Settles SameButPatterns (loadPlainField set? key path) value loaded
      { old with secretPatterns := patterns } (cleanOption configKind? key value) := by
  have takes := configKind?_isPlainTable.takes set?_fits ok
  rw [cleanOption]
  cases accepted : (configKind? key).any (·.admits value) with
  | false =>
    obtain ⟨same, problem⟩ := accepted ▸ takes
    exact ⟨⟨patterns, same ▸ rfl⟩, problem⟩
  | true =>
    rw [accepted] at takes
    have clear : loaded.problems = [] := takes
    unfold loadPlainField at ok
    cases made : set? key value old with
    | none =>
      rw [made] at ok
      cases ok
      cases clear
    | some result =>
      rw [made] at ok
      cases result with
      | error refusal => exact absurd clear (takes_of_refuse ok).2
      | ok new =>
        cases ok
        refine ⟨{ new with secretPatterns := patterns }, ?_, ⟨patterns, rfl⟩, by simp⟩
        rw [loadPlainField, set?_of_sameButPatterns other, made]
        rfl

theorem loadSecretPatterns_settles {path : String} {value : Json} {old : Config} {loaded : Loaded Config}
    (ok : loadSecretPatterns path value old = .ok loaded) (patterns : List String) :
    Settles SameButPatterns (loadSecretPatterns path) value loaded { old with secretPatterns := patterns }
      (cleanPatterns value) := by
  have spec := loadSecretPatterns_spec ok
  rw [cleanPatterns]
  cases found : texts? value with
  | none =>
    rw [heeded?, found] at spec
    obtain ⟨same, problem⟩ := spec
    exact ⟨⟨patterns, same ▸ rfl⟩, problem⟩
  | some texts =>
    cases texts?_eq_some.mp found
    have kept : Json.list ((texts.filter isPattern).map .text) = .list (texts.map .text) ↔
        texts.filter isPattern = texts := by
      rw [Json.list.injEq]
      exact List.map_inj_right (by simp)
    have read := @loadSecretPatterns_of_patterns (texts.filter isPattern)
      (fun setting member => (List.mem_filter.mp member).2) path { old with secretPatterns := patterns }
    rw [heeded?, found, Option.filter_some] at spec
    by_cases heeded : IsHeeded texts
    · rw [if_pos (by simpa using heeded)] at spec
      obtain ⟨same, clear⟩ := spec
      exact ⟨_, read, ⟨texts.filter isPattern, by rw [same]⟩, clear.trans kept.symm⟩
    · rw [if_neg (by simpa using heeded)] at spec
      obtain ⟨same, problem⟩ := spec
      refine ⟨_, read, ⟨texts.filter isPattern, same ▸ rfl⟩, iff_of_false problem fun all => heeded ?_⟩
      intro setting member
      rw [← kept.mp all] at member
      exact not_refusesList_of_isPattern (List.mem_filter.mp member).2

theorem loadConfigField_own (key : String) :
    loadConfigField key = loadConfigField (ownName "declaration_files" key) := by
  by_cases other : key = "env_files"
  · subst other
    rfl
  · rw [ownName, if_neg (by simpa using other)]

theorem cleanConfigOption_own (key : String) :
    cleanConfigOption key = cleanConfigOption (ownName "declaration_files" key) := by
  by_cases other : key = "env_files"
  · subst other
    rfl
  · rw [ownName, if_neg (by simpa using other)]

theorem cleanConfigOption_variables (value : Json) : cleanConfigOption "variables" value = cleanTable cleanRule value :=
  rfl

theorem cleanConfigOption_environments (value : Json) :
    cleanConfigOption "environments" value = cleanTable cleanEnvironment value := rfl

theorem ownName_ne (own key : String) (other : own ≠ "env_files") : ownName own key ≠ "env_files" := by
  rw [ownName]
  split
  · exact other
  · next differs => simpa using differs

/-- Whether a name is that of an option of a configuration, or unknown, in contrast to that of a section or of the
patterns for secrets. -/
structure IsPlainName (key : String) : Prop where
  noAlias : key ≠ "env_files"
  noRules : key ≠ "variables"
  noEnvironments : key ≠ "environments"
  noMatrix : key ≠ "matrix"
  noSecrets : key ≠ "secret_patterns"

theorem IsPlainName.loadConfigField {key : String} (plain : IsPlainName key) (path : String) :
    Config.loadConfigField key path = loadPlainField set? key path := by
  funext value old
  unfold Config.loadConfigField
  rw [if_neg (by simpa using plain.noAlias)]
  split
  · exact absurd rfl plain.noRules
  · exact absurd rfl plain.noRules
  · exact absurd rfl plain.noEnvironments
  · exact absurd rfl plain.noEnvironments
  · exact absurd rfl plain.noMatrix
  · exact absurd rfl plain.noSecrets
  · rfl

theorem IsPlainName.cleanConfigOption {key : String} (plain : IsPlainName key) (value : Json) :
    Config.cleanConfigOption key value = cleanOption configKind? key value := by
  unfold Config.cleanConfigOption
  rw [ownName, if_neg (by simpa using plain.noAlias)]
  split
  · exact absurd rfl plain.noRules
  · exact absurd rfl plain.noEnvironments
  · exact absurd rfl plain.noMatrix
  · exact absurd rfl plain.noSecrets
  · rfl

theorem loadConfigField_cleans : Cleans SameButPatterns loadConfigField cleanConfigOption := by
  rintro key path value old loaded _ ⟨patterns, rfl⟩ ok
  have own : ownName "declaration_files" key ≠ "env_files" := ownName_ne _ _ (by decide)
  rw [loadConfigField_own] at ok ⊢
  rw [cleanConfigOption_own]
  generalize ownName "declaration_files" key = key at *
  have loads := ok
  unfold loadConfigField at ok
  rw [if_neg (by simpa using own)] at ok
  split at ok
  · obtain ⟨table, read, ok⟩ := Outcome.bind_eq_ok.mp ok
    cases ok
    obtain ⟨kept, cleaned, read', same⟩ := loadRule_cleans.cleanTable read
    rw [cleanConfigOption_variables, cleaned]
    exact ⟨_, Outcome.bind_eq_ok.mpr ⟨_, read', rfl⟩, ⟨patterns, rfl⟩, same⟩
  · next noObject =>
    rw [cleanConfigOption_variables, cleanTable_of_not_object noObject]
    obtain ⟨same, problem⟩ := takes_of_refuse ok
    exact ⟨⟨patterns, same ▸ rfl⟩, problem⟩
  · obtain ⟨table, read, ok⟩ := Outcome.bind_eq_ok.mp ok
    cases ok
    obtain ⟨kept, cleaned, read', same⟩ := loadEnvironment_cleans.cleanTable read
    rw [cleanConfigOption_environments, cleaned]
    exact ⟨_, Outcome.bind_eq_ok.mpr ⟨_, read', rfl⟩, ⟨patterns, rfl⟩, same⟩
  · next noObject =>
    rw [cleanConfigOption_environments, cleanTable_of_not_object noObject]
    obtain ⟨same, problem⟩ := takes_of_refuse ok
    exact ⟨⟨patterns, same ▸ rfl⟩, problem⟩
  · obtain ⟨matrix, read, ok⟩ := Outcome.bind_eq_ok.mp ok
    cases ok
    obtain ⟨read', same⟩ := loadMatrix_cleans read
    exact ⟨_, Outcome.bind_eq_ok.mpr ⟨_, read', rfl⟩, ⟨patterns, rfl⟩, same⟩
  · exact loadSecretPatterns_settles ok patterns
  · next noRules noEnvironments noMatrix noSecrets _ _ =>
    have plain : IsPlainName key := ⟨own, noRules, noEnvironments, noMatrix, noSecrets⟩
    rw [plain.loadConfigField, plain.cleanConfigOption]
    exact loadPlainField_settles noSecrets ok patterns

section Lists

def listedPatterns (fields : List (String × Json)) : List (List String) :=
  fields.filterMap fun field => if optionName field.1 = "secret_patterns" then texts? field.2 else none

def heededPatterns (fields : List (String × Json)) : List (List String) :=
  (listedPatterns fields).filter fun texts => decide (IsHeeded texts)

def lastPatterns (default : List String) (lists : List (List String)) : List String :=
  (lists.getLast?.map (·.filter isPattern)).getD default

theorem lastPatterns_cons (default list : List String) (lists : List (List String)) :
    lastPatterns default (list :: lists) = lastPatterns (list.filter isPattern) lists := by
  rw [lastPatterns, lastPatterns, List.getLast?_cons]
  cases lists.getLast? <;> rfl

theorem set?_secretPatterns {key : String} {value : Json} {old new : Config} (other : key ≠ "secret_patterns")
    (made : set? key value old = some (.ok new)) : new.secretPatterns = old.secretPatterns := by
  -- Setting the patterns to what they are changes nothing, neither before nor after the field is set.
  have same := set?_of_sameButPatterns other value old old.secretPatterns
  rw [made] at same
  have same : new = { new with secretPatterns := old.secretPatterns } := Except.ok.inj (Option.some.inj same)
  calc new.secretPatterns = ({ new with secretPatterns := old.secretPatterns } : Config).secretPatterns :=
        congrArg Config.secretPatterns same
    _ = old.secretPatterns := rfl

theorem loadPlainField_secretPatterns {key path : String} {value : Json} {old : Config} {loaded : Loaded Config}
    (other : key ≠ "secret_patterns") (ok : loadPlainField set? key path value old = .ok loaded) :
    loaded.value.secretPatterns = old.secretPatterns := by
  unfold loadPlainField at ok
  cases made : set? key value old with
  | none =>
    rw [made] at ok
    cases ok
    rfl
  | some result =>
    rw [made] at ok
    cases result with
    | error refusal => rw [(takes_of_refuse ok).1]
    | ok new =>
      cases ok
      exact set?_secretPatterns other made

theorem loadConfigField_secretPatterns {key path : String} {value : Json} {old : Config} {loaded : Loaded Config}
    (ok : loadConfigField key path value old = .ok loaded) : loaded.value.secretPatterns =
      lastPatterns old.secretPatterns (if key = "secret_patterns" then heeded? value else none).toList := by
  have own : ownName "declaration_files" key ≠ "env_files" := ownName_ne _ _ (by decide)
  have named : key = "secret_patterns" ↔ ownName "declaration_files" key = "secret_patterns" := by
    rw [ownName]
    split
    · next other => simp [beq_iff_eq.mp other]
    · rfl
  rw [loadConfigField_own] at ok
  simp only [named]
  generalize ownName "declaration_files" key = key at *
  unfold loadConfigField at ok
  rw [if_neg (by simpa using own)] at ok
  split at ok
  · obtain ⟨table, _, ok⟩ := Outcome.bind_eq_ok.mp ok
    cases ok
    rfl
  · rw [(takes_of_refuse ok).1]
    rfl
  · obtain ⟨table, _, ok⟩ := Outcome.bind_eq_ok.mp ok
    cases ok
    rfl
  · rw [(takes_of_refuse ok).1]
    rfl
  · obtain ⟨matrix, _, ok⟩ := Outcome.bind_eq_ok.mp ok
    cases ok
    rfl
  · have spec := loadSecretPatterns_spec ok
    rw [if_pos rfl]
    cases found : heeded? value with
    | none =>
      rw [found] at spec
      rw [spec.1]
      rfl
    | some texts =>
      rw [found] at spec
      rw [spec.1]
      rfl
  · next noSecrets _ _ =>
    rw [if_neg noSecrets]
    exact loadPlainField_secretPatterns noSecrets ok

theorem heededPatterns_cons (key : String) (value : Json) (rest : List (String × Json)) :
    heededPatterns ((key, value) :: rest) =
      (if optionName key = "secret_patterns" then heeded? value else none).toList ++ heededPatterns rest := by
  rw [heededPatterns, listedPatterns, List.filterMap_cons]
  split
  · next unlisted =>
    have none : (if optionName key = "secret_patterns" then heeded? value else none) = none := by
      split
      · next named =>
        rw [if_pos named] at unlisted
        rw [heeded?, unlisted]
        rfl
      · rfl
    rw [none]
    rfl
  · next texts listed =>
    have named : optionName key = "secret_patterns" := by
      by_contra other
      rw [if_neg other] at listed
      cases listed
    rw [if_pos named] at listed
    rw [if_pos named, heeded?, listed, Option.filter_some, List.filter_cons]
    split <;> rfl

theorem loadFields_secretPatterns {path : String} {fields : List (String × Json)} {done loaded : Loaded Config}
    (ok : loadFields loadConfigField path fields done = .ok loaded) :
    loaded.value.secretPatterns = lastPatterns done.value.secretPatterns (heededPatterns fields) := by
  induction fields generalizing done with
  | nil =>
    cases ok
    rfl
  | cons field rest ih =>
    obtain ⟨key, value⟩ := field
    obtain ⟨next, first, ok⟩ := Outcome.bind_eq_ok.mp ok
    rw [ih ok, loadConfigField_secretPatterns first, heededPatterns_cons]
    cases (if optionName key = "secret_patterns" then heeded? value else none) with
    | none => rfl
    | some texts => exact (lastPatterns_cons _ _ _).symm

theorem cleanPatterns_texts? (value : Json) :
    (cleanPatterns value).bind texts? = (texts? value).map (·.filter isPattern) := by
  rw [cleanPatterns]
  cases texts? value with
  | none => rfl
  | some texts => exact texts?_eq_some.mpr rfl

theorem listedPatterns_cleanFields (fields : List (String × Json)) :
    listedPatterns (cleanFields cleanConfigOption fields) = (listedPatterns fields).map (·.filter isPattern) := by
  rw [listedPatterns, cleanFields, List.filterMap_filterMap, listedPatterns, List.map_filterMap]
  refine List.filterMap_congr fun field _ => ?_
  split
  · next named =>
    have option : cleanConfigOption (optionName field.1) field.2 = cleanPatterns field.2 := by
      rw [named]
      rfl
    rw [option, ← cleanPatterns_texts?, Option.bind_map]
    simp only [Function.comp_def, named, if_true]
  · next other =>
    rw [Option.bind_map]
    simp only [Function.comp_def, other, if_false, Option.map_none]
    exact Option.bind_fun_none _

theorem heededPatterns_cleanFields (fields : List (String × Json)) :
    heededPatterns (cleanFields cleanConfigOption fields) = (listedPatterns fields).map (·.filter isPattern) := by
  rw [heededPatterns, listedPatterns_cleanFields, List.filter_eq_self]
  intro texts member
  obtain ⟨list, _, rfl⟩ := List.mem_map.mp member
  rw [decide_eq_true_eq]
  intro setting kept
  exact not_refusesList_of_isPattern (List.mem_filter.mp kept).2

def heededFields (fields : List (String × Json)) : List (String × Json) :=
  fields.filter fun field =>
    optionName field.1 != "secret_patterns" || (texts? field.2).all fun texts => decide (IsHeeded texts)

theorem listedPatterns_heededFields (fields : List (String × Json)) :
    listedPatterns (heededFields fields) = heededPatterns fields := by
  rw [listedPatterns, heededFields, List.filterMap_filter, heededPatterns, listedPatterns, List.filter_filterMap]
  refine List.filterMap_congr fun field _ => ?_
  by_cases named : optionName field.1 = "secret_patterns"
  · simp only [named, bne_self_eq_false, Bool.false_or, if_true]
    cases texts? field.2 with
    | none => simp
    | some texts => simp [Option.filter_some]
  · simp [named]

theorem loadFields_heededFields {path : String} {fields : List (String × Json)} {done loaded : Loaded Config}
    (ok : loadFields loadConfigField path fields done = .ok loaded) (problems : List Problem) :
    ∃ problems', loadFields loadConfigField path (heededFields fields) ⟨done.value, problems⟩ =
      .ok ⟨loaded.value, problems'⟩ := by
  induction fields generalizing done problems with
  | nil =>
    cases ok
    exact ⟨problems, rfl⟩
  | cons field rest ih =>
    obtain ⟨key, value⟩ := field
    obtain ⟨next, first, ok⟩ := Outcome.bind_eq_ok.mp ok
    rw [heededFields, List.filter_cons]
    split
    · obtain ⟨problems', ok'⟩ := ih ok (problems ++ next.problems)
      exact ⟨problems', Outcome.bind_eq_ok.mpr ⟨next, first, ok'⟩⟩
    · next refused =>
      simp only [Bool.or_eq_true, bne_iff_ne, not_or, not_not] at refused
      obtain ⟨named, refused⟩ := refused
      have unheeded : heeded? value = none := by
        rw [heeded?]
        cases found : texts? value with
        | none => rfl
        | some texts =>
          rw [found] at refused
          exact if_neg refused
      rw [named] at first
      have spec := loadSecretPatterns_spec first
      rw [unheeded] at spec
      obtain ⟨problems', ok'⟩ := ih ok problems
      exact ⟨problems', spec.1 ▸ ok'⟩

theorem lastPatterns_map_filter (lists : List (List String)) :
    lastPatterns [] (lists.map (·.filter isPattern)) = lastPatterns [] lists := by
  rw [lastPatterns, lastPatterns, List.getLast?_map, Option.map_map]
  congr 2
  funext texts
  simp

end Lists

/-- What remains of a configuration is loaded without a problem. It gives the same apart from the patterns for secrets:
these come from the last list in any case, and not from the last one that is not refused. -/
theorem load_clean {fields : List (String × Json)} {loaded : Loaded Config} (ok : load (.object fields) = .ok loaded) :
    load (clean (.object fields)) =
        .ok ⟨{ loaded.value with secretPatterns := lastPatterns [] (listedPatterns fields) }, []⟩ ∧
      loaded.value.secretPatterns = lastPatterns [] (heededPatterns fields) ∧
      (loaded.problems = [] ↔ clean (.object fields) = .object fields) := by
  have start : SameButPatterns {} {} := ⟨[], rfl⟩
  obtain ⟨new, ok', ⟨patterns, rfl⟩, iff⟩ := loadConfigField_cleans.loadFields start ok
  have listed : patterns = lastPatterns [] (listedPatterns fields) := by
    have cleaned := loadFields_secretPatterns ok'
    rwa [heededPatterns_cleanFields, lastPatterns_map_filter] at cleaned
  refine ⟨listed ▸ ok', loadFields_secretPatterns ok, iff.trans ?_⟩
  rw [clean, cleanSection, Json.object.injEq]
  simp

/-- The whole gives what remains of it without the lists that are refused. -/
theorem load_clean_heededFields {fields : List (String × Json)} {loaded : Loaded Config}
    (ok : load (.object fields) = .ok loaded) :
    load (clean (.object (heededFields fields))) = .ok ⟨loaded.value, []⟩ := by
  obtain ⟨problems, ok'⟩ := loadFields_heededFields ok []
  have given : load (.object (heededFields fields)) = .ok ⟨loaded.value, problems⟩ := ok'
  obtain ⟨_, heeded, _⟩ := load_clean ok
  rw [(load_clean given).1, listedPatterns_heededFields, ← heeded]

def reports (problems : List Problem) : List Log.Record :=
  if problems.isEmpty then []
  else ⟨.warning, logger, "Config validation warnings:"⟩ ::
    problems.map fun problem => ⟨.warning, logger, "  " ++ problem.text⟩

theorem reports_eq_nil {problems : List Problem} : reports problems = [] ↔ problems = [] := by
  cases problems <;> simp [reports]

theorem read_of_load {value : Json} {loaded : Loaded Config} (ok : load value = .ok loaded) (directory : Path) :
    (read value directory).outcome = (.ok (loaded.value.placedAt directory), reports loaded.problems) := by
  have begun : (liftM (load value) : Logged (Loaded Config)).run.run [] = (.ok loaded, []) := by
    rw [ok]
    rfl
  rw [read, Logged.outcome, Logged.run_bind_ok begun, reports]
  dsimp only
  cases loaded.problems.isEmpty with
  | true => rfl
  | false =>
    have texts : (loaded.problems.forM fun problem => Logged.report .warning logger ("  " ++ problem.text)) =
        (loaded.problems.map fun problem => "  " ++ problem.text).forM (Logged.report .warning logger) :=
      List.forM_map.symm
    rw [if_pos (by decide), texts, Logged.run_bind_ok (Logged.run_report ..),
      Logged.run_bind_ok (Logged.run_reports ..), List.map_map]
    rfl

theorem load_of_read {value : Json} {directory : Path} {config : Config} {records : List Log.Record}
    (reads : (read value directory).outcome = (.ok config, records)) :
    ∃ loaded, load value = .ok loaded ∧ config = loaded.value.placedAt directory ∧
      records = reports loaded.problems := by
  have ok := (read_yields value directory).outcome_eq
  rw [reads, eq_comm, Outcome.bind_eq_ok] at ok
  obtain ⟨loaded, ok, same⟩ := ok
  have outcome := read_of_load ok directory
  rw [reads, Prod.mk.injEq] at outcome
  cases same
  exact ⟨loaded, ok, rfl, outcome.2⟩

/-- Whether what remains of a configuration without its invalid parts gives certain settings, where the whole gives the
first ones. It is read without a warning, and nothing is taken out exactly when the whole is read without one. Both give
the same settings, so that no invalid part bears on another one, apart from the patterns for secrets: the last list of
them counts for what remains, and for the whole the last one that is not refused for one of its entries. Where such lists
are left out as well, all settings are the same. -/
structure RemainsAs (fields : List (String × Json)) (directory : Path) (records : List Log.Record)
    (config config' : Config) : Prop where
  reads : (read (clean (.object fields)) directory).outcome = (.ok config', [])
  silent : records = [] ↔ clean (.object fields) = .object fields
  settings : config' = { config with secretPatterns := lastPatterns [] (listedPatterns fields) }
  alike : config' = config ↔ lastPatterns [] (listedPatterns fields) = lastPatterns [] (heededPatterns fields)
  heeded : (read (clean (.object (heededFields fields))) directory).outcome = (.ok config, [])
  others : ∀ others config'' records'', clean (.object others) = clean (.object fields) →
    (read (.object others) directory).outcome = (.ok config'', records'') → SameButPatterns config config''

theorem read_clean {fields : List (String × Json)} {directory : Path} {config : Config} {records : List Log.Record}
    (reads : (read (.object fields) directory).outcome = (.ok config, records)) :
    ∃ config', RemainsAs fields directory records config config' := by
  obtain ⟨loaded, ok, rfl, rfl⟩ := load_of_read reads
  obtain ⟨ok', heeded, clear⟩ := load_clean ok
  refine ⟨_, { reads := read_of_load ok' directory, silent := ?silent, settings := rfl, alike := ?alike,
               heeded := read_of_load (load_clean_heededFields ok) directory, others := ?others }⟩
  case silent => rw [reports_eq_nil, clear]
  case alike =>
    rw [← heeded]
    constructor
    · intro same
      exact congrArg Config.secretPatterns same
    · intro same
      rw [same]
  case others =>
    intro others config'' records'' same reads''
    obtain ⟨loaded'', ok'', rfl, _⟩ := load_of_read reads''
    obtain ⟨cleaned, _, _⟩ := load_clean ok''
    rw [same, ok'] at cleaned
    have alike := congrArg Loaded.value (Except.ok.inj cleaned)
    have same : loaded''.value = { loaded.value with secretPatterns := loaded''.value.secretPatterns } :=
      congrArg (fun config : Config => { config with secretPatterns := loaded''.value.secretPatterns }) alike.symm
    refine ⟨loaded''.value.secretPatterns, ?_⟩
    calc placedAt directory loaded''.value
        = placedAt directory { loaded.value with secretPatterns := loaded''.value.secretPatterns } :=
          congrArg (placedAt directory) same
      _ = { placedAt directory loaded.value with secretPatterns := loaded''.value.secretPatterns } := rfl

def faulty : List (String × Json) :=
  [("root", .int 5), ("Strict", .bool true), ("nonsense", .object []),
    ("variables", .object [("A", .object [("type", .text "number"), ("required", .text "yes"),
        ("enum", .list [.int 1, .bool true]),
        ("environments", .object [("production", .object [("mustBe", .int 1), ("required", .int 3)]),
          ("staging", .int 5)])]),
      ("B", .int 7)]),
    ("environments", .object [("production", .object [("env_files", .list [.text ".env"]), ("files", .int 3)])]),
    ("matrix", .null), ("secretPatterns", .list [.text "^A_", .text "("]), ("secret-patterns", .null)]

theorem read_clean_faulty : ∃ config records, (read (.object faulty) ⟨"/", []⟩).outcome = (.ok config, records) ∧
    (read (clean (.object faulty)) ⟨"/", []⟩).outcome = (.ok config, []) ∧
    clean (.object faulty) = .object
      [("Strict", .bool true),
        ("variables", .object [("A", .object [("type", .text "number"), ("enum", .list [.int 1, .bool true]),
            ("environments", .object [("production", .object [("mustBe", .int 1)]), ("staging", .object [])])]),
          ("B", .object [])]),
        ("environments", .object [("production", .object [("env_files", .list [.text ".env"])])]),
        ("matrix", .object []), ("secretPatterns", .list [.text "^A_"])] := by
  have cleaned : clean (.object faulty) = .object
      [("Strict", .bool true),
        ("variables", .object [("A", .object [("type", .text "number"), ("enum", .list [.int 1, .bool true]),
            ("environments", .object [("production", .object [("mustBe", .int 1)]), ("staging", .object [])])]),
          ("B", .object [])]),
        ("environments", .object [("production", .object [("env_files", .list [.text ".env"])])]),
        ("matrix", .object []), ("secretPatterns", .list [.text "^A_"])] := by rfl
  have returns : (read (.object faulty) ⟨"/", []⟩).outcome.1.toOption.isSome = true := by decide +kernel
  cases ran : (read (.object faulty) ⟨"/", []⟩).outcome with
  | mk result records =>
    rw [ran] at returns
    cases result with
    | error failure => cases returns
    | ok config =>
      obtain ⟨config', remains⟩ := read_clean ran
      cases remains.alike.mpr (by decide +kernel)
      exact ⟨config, records, rfl, remains.reads, cleaned⟩

example : RefusesList "(?a)(?u)x" := by decide +kernel

end EnvAudit.Config
