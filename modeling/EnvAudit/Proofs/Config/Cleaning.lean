import EnvAudit.Proofs.Config.Kinds

/-! Cleaning a configuration. What a configuration says that is not taken over can be taken out of it: unknown options
and those with values of a wrong kind, entries for secrets that are no patterns, and entries of sections that are no
objects. What remains of a section is loaded without a problem and gives the same. -/
namespace EnvAudit.Config

def cleanOption (kind? : String → Option Kind) (key : String) (value : Json) : Option Json :=
  if (kind? key).any (·.admits value) then some value else none

def cleanFields (clean : String → Json → Option Json) (fields : List (String × Json)) : List (String × Json) :=
  fields.filterMap fun field => (clean (optionName field.1) field.2).map (field.1, ·)

def cleanSection (clean : String → Json → Option Json) : Json → Json
  | .object fields => .object (cleanFields clean fields)
  | _ => .object []

def cleanTable (clean : Json → Json) : Json → Option Json
  | .object entries => some (.object (entries.map fun (name, entry) => (name, clean entry)))
  | _ => none

def cleanOverride : Json → Json := cleanSection (cleanOption overrideKind?)

def cleanRuleOption (key : String) (value : Json) : Option Json :=
  match key with
  | "environments" => cleanTable cleanOverride value
  | key => cleanOption ruleKind? key value

def cleanRule : Json → Json := cleanSection cleanRuleOption

def ownName (own key : String) : String := if key == "env_files" then own else key

def cleanEnvironment : Json → Json :=
  cleanSection fun key value => cleanOption environmentKind? (ownName "files" key) value

def cleanMatrix : Json → Json := cleanSection (cleanOption matrixKind?)

def texts? : Json → Option (List String)
  | .list items => items.mapM Json.text?
  | _ => none

def cleanPatterns (value : Json) : Option Json :=
  (texts? value).map fun texts => .list ((texts.filter isPattern).map .text)

def cleanConfigOption (key : String) (value : Json) : Option Json :=
  match ownName "declaration_files" key with
  | "variables" => cleanTable cleanRule value
  | "environments" => cleanTable cleanEnvironment value
  | "matrix" => some (cleanMatrix value)
  | "secret_patterns" => cleanPatterns value
  | key => cleanOption configKind? key value

def clean : Json → Json := cleanSection cleanConfigOption

section Sections
variable {α : Type} {Alike : α → α → Prop} {load : FieldLoader α} {clean : String → Json → Option Json}

/-- Whether loading what is kept of a field goes on like loading the field, without a problem. Where nothing is kept,
the field leaves a problem and the section as it was. -/
def Settles (Alike : α → α → Prop) (load : Json → α → Except Failure (Loaded α)) (value : Json) (loaded : Loaded α)
    (old : α) : Option Json → Prop
  | none => Alike loaded.value old ∧ loaded.problems ≠ []
  | some kept => ∃ new, load kept old = .ok ⟨new, []⟩ ∧ Alike loaded.value new ∧ (loaded.problems = [] ↔ kept = value)

def Cleans (Alike : α → α → Prop) (load : FieldLoader α) (clean : String → Json → Option Json) : Prop :=
  ∀ {key path value old loaded old'}, Alike old old' → load key path value old = .ok loaded →
    Settles Alike (load key path) value loaded old' (clean key value)

/-- Whether loading what is kept of a value gives the same without a problem. -/
def CleansWhole (load : String → Json → Except Failure (Loaded α)) (clean : Json → Json) : Prop :=
  ∀ {path value loaded}, load path value = .ok loaded →
    load path (clean value) = .ok ⟨loaded.value, []⟩ ∧ (loaded.problems = [] ↔ clean value = value)

theorem settles_of_takes {load : Json → α → Except Failure (Loaded α)} {value : Json} {old : α} {loaded : Loaded α}
    {accepted : Bool} (ok : load value old = .ok loaded) (takes : Takes accepted old loaded) :
    Settles Eq load value loaded old (if accepted then some value else none) := by
  cases accepted with
  | false => exact takes
  | true =>
    have clear : loaded.problems = [] := takes
    refine ⟨loaded.value, ?_, rfl, by simp [clear]⟩
    rw [ok, ← clear]

theorem cleanFields_cons_of_none {key : String} {value : Json} (rest : List (String × Json))
    (found : clean (optionName key) value = none) : cleanFields clean ((key, value) :: rest) = cleanFields clean rest :=
  List.filterMap_cons_none (Option.map_eq_none_iff.mpr found)

theorem cleanFields_cons_of_some {key : String} {value kept : Json} (rest : List (String × Json))
    (found : clean (optionName key) value = some kept) :
    cleanFields clean ((key, value) :: rest) = (key, kept) :: cleanFields clean rest :=
  List.filterMap_cons_some (Option.map_eq_some_iff.mpr ⟨kept, found, rfl⟩)

theorem Cleans.loadFields (cleans : Cleans Alike load clean) {path : String} {fields : List (String × Json)}
    {done loaded : Loaded α} {done' : α} (alike : Alike done.value done')
    (ok : loadFields load path fields done = .ok loaded) :
    ∃ value', Config.loadFields load path (cleanFields clean fields) ⟨done', []⟩ = .ok ⟨value', []⟩ ∧
      Alike loaded.value value' ∧
      (loaded.problems = [] ↔ done.problems = [] ∧ cleanFields clean fields = fields) := by
  induction fields generalizing done done' with
  | nil =>
    cases ok
    exact ⟨done', rfl, alike, by simp [cleanFields]⟩
  | cons field rest ih =>
    obtain ⟨key, value⟩ := field
    obtain ⟨next, first, ok⟩ := Outcome.bind_eq_ok.mp ok
    have settles := cleans alike first
    cases found : clean (optionName key) value with
    | none =>
      rw [found] at settles
      obtain ⟨alike, problem⟩ := settles
      obtain ⟨value', ok', alike, iff⟩ := @ih ⟨next.value, done.problems ++ next.problems⟩ _ alike ok
      rw [cleanFields_cons_of_none rest found]
      refine ⟨value', ok', alike, iff_of_false ?_ ?_⟩
      · intro clear
        exact problem (List.append_eq_nil_iff.mp (iff.mp clear).1).2
      · rintro ⟨_, same⟩
        have shorter : (cleanFields clean rest).length ≤ rest.length := List.length_filterMap_le _ _
        rw [same, List.length_cons] at shorter
        omega
    | some kept =>
      rw [found] at settles
      obtain ⟨new, first', alike, same⟩ := settles
      obtain ⟨value', ok', alike, iff⟩ := @ih ⟨next.value, done.problems ++ next.problems⟩ _ alike ok
      rw [cleanFields_cons_of_some rest found]
      refine ⟨value', Outcome.bind_eq_ok.mpr ⟨_, first', ok'⟩, alike, ?_⟩
      rw [iff, List.append_eq_nil_iff, same, List.cons.injEq, Prod.mk.injEq]
      tauto

theorem Cleans.loadSection (cleans : Cleans Eq load clean) (empty : α) :
    CleansWhole (loadSection empty load) (cleanSection clean) := by
  intro path value loaded ok
  cases value with
  | object fields =>
    obtain ⟨_, ok', rfl, iff⟩ := cleans.loadFields rfl ok
    refine ⟨ok', iff.trans ?_⟩
    rw [cleanSection, Json.object.injEq]
    simp
  | _ =>
    cases ok
    exact ⟨rfl, iff_of_false (List.cons_ne_nil _ _) (by rintro ⟨⟩)⟩

theorem CleansWhole.loadTable {load : String → Json → Except Failure (Loaded α)} {clean : Json → Json}
    (cleans : CleansWhole load clean) {path : String} {entries : List (String × Json)}
    {loaded : Loaded (List (String × α))} (ok : loadTable load path entries = .ok loaded) :
    Config.loadTable load path (entries.map fun (name, entry) => (name, clean entry)) = .ok ⟨loaded.value, []⟩ ∧
      (loaded.problems = [] ↔ (entries.map fun (name, entry) => (name, clean entry)) = entries) := by
  induction entries generalizing loaded with
  | nil =>
    cases ok
    exact ⟨rfl, by simp⟩
  | cons entry rest ih =>
    obtain ⟨name, value⟩ := entry
    obtain ⟨first, read, ok⟩ := Outcome.bind_eq_ok.mp ok
    obtain ⟨others, table, ok⟩ := Outcome.bind_eq_ok.mp ok
    cases ok
    obtain ⟨read', same⟩ := cleans read
    obtain ⟨table', sames⟩ := ih table
    refine ⟨?_, ?_⟩
    · exact Outcome.bind_eq_ok.mpr ⟨_, read', Outcome.bind_eq_ok.mpr ⟨_, table', rfl⟩⟩
    · rw [List.append_eq_nil_iff, same, sames, List.map_cons, List.cons.injEq, Prod.mk.injEq]
      simp

theorem CleansWhole.cleanTable {load : String → Json → Except Failure (Loaded α)} {clean : Json → Json}
    (cleans : CleansWhole load clean) {path : String} {entries : List (String × Json)}
    {table : Loaded (List (String × α))} (read : Config.loadTable load path entries = .ok table) :
    ∃ kept, Config.cleanTable clean (.object entries) = some (.object kept) ∧
      Config.loadTable load path kept = .ok ⟨table.value, []⟩ ∧
      (table.problems = [] ↔ Json.object kept = .object entries) := by
  obtain ⟨read', same⟩ := cleans.loadTable read
  exact ⟨_, rfl, read', by rw [same, Json.object.injEq]⟩

end Sections

theorem loadOverride_cleans : CleansWhole loadOverride cleanOverride := by
  apply Cleans.loadSection
  rintro key path value old loaded _ rfl ok
  exact settles_of_takes ok (loadRuleField_takes Override.set?_fits overrideKind?_isRuleTable ok)

theorem loadEnvironment_cleans : CleansWhole loadEnvironment cleanEnvironment := by
  apply Cleans.loadSection
  rintro key path value old loaded _ rfl ok
  exact settles_of_takes ok (environmentKind?_isPlainTable.takes EnvironmentSetting.set?_fits ok)

theorem loadMatrix_cleans : CleansWhole loadMatrix cleanMatrix := by
  apply Cleans.loadSection
  rintro key path value old loaded _ rfl ok
  exact settles_of_takes ok (matrixKind?_isPlainTable.takes MatrixSetting.set?_fits ok)

theorem cleanTable_of_not_object {clean : Json → Json} {value : Json}
    (noObject : ∀ entries, value = .object entries → False) : cleanTable clean value = none := by
  cases value with
  | object entries => exact (noObject entries rfl).elim
  | _ => rfl

theorem loadRule_cleans : CleansWhole loadRule cleanRule := by
  apply Cleans.loadSection
  rintro key path value old loaded _ rfl loads
  have ok := loads
  unfold loadVariableField at ok
  split at ok
  · obtain ⟨table, read, ok⟩ := Outcome.bind_eq_ok.mp ok
    cases ok
    obtain ⟨kept, cleaned, read', same⟩ := loadOverride_cleans.cleanTable read
    rw [cleanRuleOption.eq_1, cleaned]
    exact ⟨_, Outcome.bind_eq_ok.mpr ⟨_, read', rfl⟩, rfl, same⟩
  · next noObject =>
    have none : cleanRuleOption "environments" value = none :=
      cleanTable_of_not_object fun entries => noObject entries
    rw [none]
    exact takes_of_refuse ok
  · next plain _ =>
    rw [cleanRuleOption.eq_2 key value plain]
    exact settles_of_takes loads (loadRuleField_takes Rule.set?_fits ruleKind?_isRuleTable ok)

end EnvAudit.Config
