import EnvAudit.Config.Loader
import EnvAudit.Proofs.Audit.Completion

/-! When a configuration is loaded from a value. Every field that cannot be taken over leaves a problem and its default,
with two exceptions: a pattern that repeats or nests beyond what can be compiled, and a refused value that nests too
deeply to be shown. Whatever else a value says, loading it returns. -/
namespace EnvAudit

namespace Pattern

/-- Whether the pattern of a setting is compiled or refused, in contrast to one beyond what can be compiled. -/
structure IsJudgeable (setting : String) : Prop where
  repetition : ofSetting setting ≠ .error .repetitionTooLarge
  nesting : ofSetting setting ≠ .error .nestingTooDeep

theorem isJudgeable_iff {setting : String} : IsJudgeable setting ↔
    (match ofSetting setting with
      | .error .repetitionTooLarge | .error .nestingTooDeep => false
      | _ => true) = true := by
  have parts : IsJudgeable setting ↔
      ofSetting setting ≠ .error .repetitionTooLarge ∧ ofSetting setting ≠ .error .nestingTooDeep :=
    ⟨fun judgeable => ⟨judgeable.1, judgeable.2⟩, fun judgeable => ⟨judgeable.1, judgeable.2⟩⟩
  rw [parts]
  cases ofSetting setting with
  | ok pattern => simp
  | error fault => cases fault <;> simp

instance (setting : String) : Decidable (IsJudgeable setting) := decidable_of_iff' _ isJudgeable_iff

end Pattern

namespace Config
variable {α : Type}

theorem patternRefusal?_returns {setting : String} :
    Returns (patternRefusal? setting) ↔ Pattern.IsJudgeable setting := by
  rw [patternRefusal?, Pattern.isJudgeable_iff]
  cases found : Pattern.ofSetting setting with
  | ok pattern => simp
  | error fault => cases fault <;> simp

section Fields

structure Shows (value : Json) (result : Except Refusal α) : Prop where
  taken : ∀ new, result = .ok new → value.depth = 0
  refused : ∀ refusal, result = .error refusal → refusal.shown? = some value

def Hides (result : Except Refusal α) : Prop := ∀ refusal, result = .error refusal → refusal.shown? = none

variable {β : Type} {value : Json} {slot : Slot}

theorem Shows.map {result : Except Refusal α} (shows : Shows value result) (f : α → β) :
    Shows value (result.map f) := by
  cases result with
  | ok old => exact ⟨fun _ _ => shows.taken old rfl, by rintro _ ⟨⟩⟩
  | error refusal =>
    refine ⟨by rintro _ ⟨⟩, ?_⟩
    rintro _ ⟨⟩
    exact shows.refused refusal rfl

theorem Hides.map {result : Except Refusal α} (hides : Hides result) (f : α → β) : Hides (result.map f) := by
  cases result with
  | ok old => rintro _ ⟨⟩
  | error refusal =>
    rintro _ ⟨⟩
    exact hides refusal rfl

theorem hides_ok (new : α) : Hides (.ok new) := by
  rintro _ ⟨⟩

theorem booleanField_shows : Shows value (booleanField slot value) := by
  cases value <;> constructor <;> rintro _ ⟨⟩ <;> rfl

theorem booleanField?_shows : Shows value (booleanField? slot value) := by
  cases value <;> constructor <;> rintro _ ⟨⟩ <;> rfl

theorem choiceField_shows {ofName? : String → Option α} {choices : List String} :
    Shows value (choiceField slot ofName? choices value) := by
  rw [choiceField]
  cases value with
  | text name =>
    split
    · exact ⟨fun _ _ => rfl, by rintro _ ⟨⟩⟩
    · exact ⟨by rintro _ ⟨⟩, by rintro _ ⟨⟩; rfl⟩
  | _ => exact ⟨by rintro _ ⟨⟩, by rintro _ ⟨⟩; rfl⟩

theorem typeField_shows : Shows value (typeField slot value) := by
  rw [typeField]
  split
  · next nothing =>
    cases value <;> cases nothing
    exact ⟨fun _ _ => rfl, by rintro _ ⟨⟩⟩
  · exact choiceField_shows.map _

theorem stringField_hides : Hides (stringField slot value) := by
  cases value <;> rintro _ ⟨⟩ <;> rfl

theorem stringField?_hides : Hides (stringField? slot value) := by
  unfold stringField?
  split
  · exact hides_ok none
  · exact stringField_hides.map _

theorem strings_hides {items : List Json} : Hides (strings slot items) := by
  induction items with
  | nil => exact hides_ok []
  | cons item rest ih =>
    cases item with
    | text item => exact ih.map _
    | _ => rintro _ ⟨⟩; rfl

theorem listField_hides : Hides (listField slot value) := by
  cases value with
  | list items => exact strings_hides
  | _ => rintro _ ⟨⟩; rfl

theorem listField?_hides : Hides (listField? slot value) := by
  unfold listField?
  split
  · exact hides_ok none
  · exact listField_hides.map _

structure Tells (set? : String → Json → α → Option (Except Refusal α)) (keys : List String) : Prop where
  shows : ∀ key ∈ keys, ∀ value old, ∃ result, set? key value old = some result ∧ Shows value result
  hides : ∀ key ∉ keys, ∀ value old result, set? key value old = some result → Hides result

end Fields

theorem setConstraint?_hides {owner key : String} {value : Json} {c : Constraints} {result : Except Refusal Constraints}
    (other : key ≠ "type") (made : setConstraint? owner key value c = some result) : Hides result := by
  unfold setConstraint? at made
  split at made
  · exact absurd rfl other
  · cases made
    exact stringField?_hides.map _
  · cases made
    exact listField?_hides.map _
  · cases made

theorem Override.set?_tells : Tells Override.set? ["type", "required"] := by
  constructor
  · intro key shown value old
    rcases List.mem_pair.mp shown with rfl | rfl
    · exact ⟨_, rfl, (typeField_shows.map _).map _⟩
    · exact ⟨_, rfl, booleanField?_shows.map _⟩
  · intro key hidden value old result made
    simp only [List.mem_cons, List.not_mem_nil, or_false, not_or] at hidden
    unfold Override.set? at made
    split at made
    · exact absurd rfl hidden.2
    · cases made
      exact stringField?_hides.map _
    · cases made
      exact stringField?_hides.map _
    · obtain ⟨constraints, set, rfl⟩ := Option.map_eq_some_iff.mp made
      exact (setConstraint?_hides hidden.1 set).map _

theorem Rule.set?_tells : Tells Rule.set? ["type", "required", "secret"] := by
  constructor
  · intro key shown value old
    simp only [List.mem_cons, List.not_mem_nil, or_false] at shown
    rcases shown with rfl | rfl | rfl
    · exact ⟨_, rfl, (typeField_shows.map _).map _⟩
    · exact ⟨_, rfl, booleanField_shows.map _⟩
    · exact ⟨_, rfl, booleanField_shows.map _⟩
  · intro key hidden value old result made
    simp only [List.mem_cons, List.not_mem_nil, or_false, not_or] at hidden
    unfold Rule.set? at made
    split at made
    · exact absurd rfl hidden.2.1
    · exact absurd rfl hidden.2.2
    · cases made
      exact hides_ok _
    · cases made
      exact stringField?_hides.map _
    · cases made
      exact stringField?_hides.map _
    · obtain ⟨constraints, set, rfl⟩ := Option.map_eq_some_iff.mp made
      exact (setConstraint?_hides hidden.1 set).map _

theorem EnvironmentSetting.set?_tells : Tells EnvironmentSetting.set? ["strict"] := by
  constructor
  · intro key shown value old
    cases List.mem_singleton.mp shown
    exact ⟨_, rfl, booleanField_shows.map _⟩
  · intro key hidden value old result made
    unfold EnvironmentSetting.set? at made
    split at made
    · cases made
      exact listField_hides.map _
    · cases made
      exact stringField?_hides.map _
    · exact absurd (List.mem_singleton_self _) hidden
    · cases made

theorem MatrixSetting.set?_tells : Tells MatrixSetting.set? ["require_consistency"] := by
  constructor
  · intro key shown value old
    cases List.mem_singleton.mp shown
    exact ⟨_, rfl, choiceField_shows.map _⟩
  · intro key hidden value old result made
    unfold MatrixSetting.set? at made
    split at made
    · exact absurd (List.mem_singleton_self _) hidden
    · cases made
      exact listField_hides.map _
    · cases made

theorem set?_tells : Tells set? ["framework", "strict"] := by
  constructor
  · intro key shown value old
    rcases List.mem_pair.mp shown with rfl | rfl
    · exact ⟨_, rfl, choiceField_shows.map _⟩
    · exact ⟨_, rfl, booleanField_shows.map _⟩
  · intro key hidden value old result made
    simp only [List.mem_cons, List.not_mem_nil, or_false, not_or] at hidden
    unfold set? at made
    split at made
    · cases made
      exact stringField_hides.map _
    · cases made
      exact listField_hides.map _
    · cases made
      exact stringField?_hides.map _
    · cases made
      exact listField_hides.map _
    · cases made
      exact listField_hides.map _
    · exact absurd rfl hidden.1
    · cases made
      exact listField_hides.map _
    · exact absurd rfl hidden.2
    · cases made
      exact listField_hides.map _
    · cases made

section Sections

theorem Loaded.refuse_returns {old : α} {path : String} {refusal : Refusal} :
    Returns (Loaded.refuse old path refusal) ↔
      ∀ value, refusal.shown? = some value → value.depth ≤ Json.displayLimit := by
  rw [Loaded.refuse]
  split
  · next tellable =>
    rw [Refusal.isTellable, Option.all_eq_true] at tellable
    simpa using tellable
  · next silent =>
    rw [Refusal.isTellable, Option.all_eq_true] at silent
    simpa using silent

variable {set? : String → Json → α → Option (Except Refusal α)} {keys : List String}

theorem loadPlainField_returns (tells : Tells set? keys) (key path : String) (value : Json) (old : α) :
    Returns (loadPlainField set? key path value old) ↔ (key ∈ keys → value.depth ≤ Json.displayLimit) := by
  rw [loadPlainField]
  by_cases shown : key ∈ keys
  · obtain ⟨result, made, shows⟩ := tells.shows key shown value old
    rw [made]
    simp only [shown, forall_const]
    cases result with
    | ok new => simp [Loaded.ofField, shows.taken new rfl]
    | error refusal =>
      rw [Loaded.ofField, Loaded.refuse_returns, shows.refused refusal rfl]
      simp
  · simp only [shown, false_implies, iff_true]
    cases made : set? key value old with
    | none => exact Outcome.returns_ok _
    | some result =>
      cases result with
      | ok new => exact Outcome.returns_ok _
      | error refusal =>
        refine Loaded.refuse_returns.mpr ?_
        rw [tells.hides key shown value old _ made refusal rfl]
        simp

structure IsRuleField (keys : List String) (key : String) (value : Json) : Prop where
  shallow : key ∈ keys → value.depth ≤ Json.displayLimit
  pattern : key = "pattern" → ∀ setting, value = .text setting → Pattern.IsJudgeable setting

theorem loadRuleField_returns (tells : Tells set? keys)
    (others : "enum" ∉ keys ∧ "must_be" ∉ keys ∧ "pattern" ∉ keys) (key path : String) (value : Json) (old : α) :
    Returns (loadRuleField set? key path value old) ↔ IsRuleField keys key value := by
  obtain ⟨enum, mustBe, pattern⟩ := others
  have hidden {key : String} (other : key ∉ keys) (value : Json) : Returns (loadPlainField set? key path value old) :=
    (loadPlainField_returns tells key path value old).mpr fun shown => absurd shown other
  unfold loadRuleField
  split
  · exact iff_of_true (hidden enum _) ⟨fun shown => absurd shown enum, fun same => absurd same (by decide)⟩
  · exact iff_of_true (hidden mustBe _) ⟨fun shown => absurd shown mustBe, fun same => absurd same (by decide)⟩
  · exact iff_of_true (hidden pattern _) ⟨fun shown => absurd shown pattern, by rintro _ _ ⟨⟩⟩
  · next setting =>
    refine (Outcome.returns_bind_iff ?_).trans (patternRefusal?_returns.trans ?_)
    · intro refusal _
      cases refusal with
      | none => exact hidden pattern _
      | some refusal => exact Outcome.returns_pure _
    · exact ⟨fun judgeable => ⟨fun shown => absurd shown pattern, by rintro _ _ ⟨⟩; exact judgeable⟩,
        fun loadable => loadable.pattern rfl setting rfl⟩
  · next noNull noText =>
    refine iff_of_true (Outcome.returns_ok _) ⟨fun shown => absurd shown pattern, ?_⟩
    rintro _ setting rfl
    exact absurd rfl (noText setting)
  · next noPattern _ _ _ =>
    rw [loadPlainField_returns tells]
    exact ⟨fun shallow => ⟨shallow, fun same => (noPattern same).elim⟩, fun loadable => loadable.shallow⟩

variable {goes : String → Json → Prop} {load : FieldLoader α}

def IsSection (goes : String → Json → Prop) (value : Json) : Prop :=
  ∀ fields, value = .object fields → ∀ field ∈ fields, goes (optionName field.1) field.2

structure IsTable (goes : Json → Prop) (value : Json) : Prop where
  entries : ∀ fields, value = .object fields → ∀ entry ∈ fields, goes entry.2
  shallow : value.isObject = false → value.depth ≤ Json.displayLimit

theorem loadFields_returns (each : ∀ key path value old, Returns (load key path value old) ↔ goes key value)
    (path : String) (fields : List (String × Json)) (done : Loaded α) :
    Returns (loadFields load path fields done) ↔ ∀ field ∈ fields, goes (optionName field.1) field.2 := by
  induction fields generalizing done with
  | nil => simp [loadFields]
  | cons field rest ih =>
    rw [loadFields, Outcome.returns_bind, List.forall_mem_cons]
    constructor
    · rintro ⟨next, first, others⟩
      exact ⟨(each ..).mp ⟨next, first⟩, (ih _).mp others⟩
    · rintro ⟨first, others⟩
      obtain ⟨next, loaded⟩ := (each ..).mpr first
      exact ⟨next, loaded, (ih _).mpr others⟩

theorem loadSection_returns (each : ∀ key path value old, Returns (load key path value old) ↔ goes key value)
    (empty : α) (path : String) (value : Json) :
    Returns (loadSection empty load path value) ↔ IsSection goes value := by
  cases value with
  | object fields =>
    refine (loadFields_returns each path fields _).trans ?_
    constructor
    · rintro loadable _ ⟨⟩
      exact loadable
    · intro loadable
      exact loadable fields rfl
  | _ => exact iff_of_true (Outcome.returns_ok _) (by rintro _ ⟨⟩)

theorem loadTable_returns {load : String → Json → Except Failure (Loaded α)} {goes : Json → Prop}
    (each : ∀ path value, Returns (load path value) ↔ goes value) (path : String) (entries : List (String × Json)) :
    Returns (loadTable load path entries) ↔ ∀ entry ∈ entries, goes entry.2 := by
  induction entries with
  | nil => simp [loadTable]
  | cons entry rest ih =>
    rw [loadTable, Outcome.returns_bind, List.forall_mem_cons, ← ih]
    constructor
    · rintro ⟨first, loaded, others⟩
      obtain ⟨table, read, _⟩ := Outcome.returns_bind.mp others
      exact ⟨(each ..).mp ⟨first, loaded⟩, ⟨table, read⟩⟩
    · rintro ⟨first, ⟨table, read⟩⟩
      obtain ⟨next, loaded⟩ := (each ..).mpr first
      exact ⟨next, loaded, Outcome.returns_bind.mpr ⟨table, read, Outcome.returns_pure _⟩⟩

end Sections

def IsOverride : Json → Prop := IsSection (IsRuleField ["type", "required"])

theorem loadOverride_returns (path : String) (value : Json) : Returns (loadOverride path value) ↔ IsOverride value :=
  loadSection_returns (loadRuleField_returns Override.set?_tells (by decide)) {} path value

def IsVariableField (key : String) (value : Json) : Prop :=
  match key with
  | "environments" => IsTable IsOverride value
  | key => IsRuleField ["type", "required", "secret"] key value

theorem refuse_notTable_returns {old : α} {path : String} {slot : Slot} {goes : Json → Prop} {value : Json}
    (other : ∀ fields, value = .object fields → False) :
    Returns (Loaded.refuse old path (.notTable slot value)) ↔ IsTable goes value := by
  have plain : value.isObject = false := by
    cases value with
    | object fields => exact (other fields rfl).elim
    | _ => rfl
  rw [Loaded.refuse_returns]
  constructor
  · intro shallow
    exact ⟨fun fields same => (other fields same).elim, fun _ => shallow value rfl⟩
  · rintro ⟨_, shallow⟩ _ ⟨⟩
    exact shallow plain

theorem isTable_object {goes : Json → Prop} {fields : List (String × Json)} :
    IsTable goes (.object fields) ↔ ∀ entry ∈ fields, goes entry.2 := by
  constructor
  · rintro ⟨entries, _⟩
    exact entries fields rfl
  · intro entries
    refine ⟨?_, by rintro ⟨⟩⟩
    rintro _ ⟨⟩
    exact entries

theorem loadVariableField_returns (key path : String) (value : Json) (old : Rule) :
    Returns (loadVariableField key path value old) ↔ IsVariableField key value := by
  unfold loadVariableField
  split
  · refine (Outcome.returns_bind_iff fun _ _ => Outcome.returns_pure _).trans ?_
    exact (loadTable_returns loadOverride_returns _ _).trans isTable_object.symm
  · next other => exact refuse_notTable_returns other
  · next other _ =>
    rw [loadRuleField_returns Rule.set?_tells (by decide)]
    unfold IsVariableField
    split
    · exact (other rfl).elim
    · rfl

def IsRule : Json → Prop := IsSection IsVariableField

theorem loadRule_returns (path : String) (value : Json) : Returns (loadRule path value) ↔ IsRule value :=
  loadSection_returns loadVariableField_returns {} path value

def IsPlainField (keys : List String) (key : String) (value : Json) : Prop :=
  key ∈ keys → value.depth ≤ Json.displayLimit

theorem loadEnvironment_returns (path : String) (value : Json) :
    Returns (loadEnvironment path value) ↔ IsSection (IsPlainField ["strict"]) value := by
  apply loadSection_returns
  intro key path value old
  rw [loadPlainField_returns EnvironmentSetting.set?_tells, IsPlainField]
  split
  · next renamed =>
    rw [beq_iff_eq.mp renamed]
    exact iff_of_true (fun shown => absurd shown (by decide)) fun shown => absurd shown (by decide)
  · rfl

theorem loadMatrix_returns (path : String) (value : Json) :
    Returns (loadMatrix path value) ↔ IsSection (IsPlainField ["require_consistency"]) value :=
  loadSection_returns (loadPlainField_returns MatrixSetting.set?_tells) {} path value

def RefusesList (setting : String) : Prop :=
  Pattern.ofSetting setting = .error .clashingModes ∨ ∃ digits, Pattern.ofSetting setting = .error (.longNumber digits)

def AreJudgeable : List Json → Prop
  | [] => True
  | .text setting :: rest => Pattern.IsJudgeable setting ∧ (RefusesList setting ∨ AreJudgeable rest)
  | _ :: rest => AreJudgeable rest

theorem keepPatterns_text_returns (path : String) (index : Nat) (setting : String) (rest : List Json) :
    Returns (keepPatterns path index (.text setting :: rest)) ↔
      Pattern.IsJudgeable setting ∧ (RefusesList setting ∨ Returns (keepPatterns path (index + 1) rest)) := by
  rw [← patternRefusal?_returns, RefusesList, keepPatterns, Outcome.returns_bind]
  simp only [patternRefusal?]
  cases found : Pattern.ofSetting setting with
  | ok pattern => simp
  | error fault => cases fault <;> simp

theorem keepPatterns_returns (path : String) (index : Nat) (items : List Json) :
    Returns (keepPatterns path index items) ↔ AreJudgeable items := by
  induction items generalizing index with
  | nil => exact iff_of_true (Outcome.returns_ok _) trivial
  | cons item rest ih =>
    cases item with
    | text setting =>
      rw [keepPatterns_text_returns, ih (index + 1)]
      rfl
    | _ => exact (Outcome.returns_bind_iff fun _ _ => Outcome.returns_pure _).trans (ih (index + 1))

theorem loadSecretPatterns_returns (path : String) (value : Json) (old : Config) :
    Returns (loadSecretPatterns path value old) ↔ ∀ items, value = .list items → AreJudgeable items := by
  have set (value : Json) : Returns (loadPlainField Config.set? "secret_patterns" path value old) :=
    (loadPlainField_returns set?_tells ..).mpr fun shown => absurd shown (by decide)
  unfold loadSecretPatterns
  split
  · next items =>
    refine (Outcome.returns_bind_iff ?_).trans ((keepPatterns_returns path 0 items).trans ?_)
    · rintro ⟨kept, problems⟩ _
      cases kept with
      | ok kept => exact (Outcome.returns_bind_iff fun _ _ => Outcome.returns_pure _).mpr (set _)
      | error refusal => exact Outcome.returns_pure _
    · constructor
      · rintro judgeable _ ⟨⟩
        exact judgeable
      · intro judgeable
        exact judgeable items rfl
  · next other =>
    exact iff_of_true (set _) fun items same => (other items same).elim

def IsField (key : String) (value : Json) : Prop :=
  match key with
  | "variables" => IsTable IsRule value
  | "environments" => IsTable (IsSection (IsPlainField ["strict"])) value
  | "matrix" => IsSection (IsPlainField ["require_consistency"]) value
  | "secret_patterns" => ∀ items, value = .list items → AreJudgeable items
  | key => IsPlainField ["framework", "strict"] key value

theorem loadConfigField_returns (key path : String) (value : Json) (old : Config) :
    Returns (loadConfigField key path value old) ↔ IsField key value := by
  have renamed : IsField (if key == "env_files" then "declaration_files" else key) value ↔ IsField key value := by
    split
    · next same =>
      rw [beq_iff_eq.mp same]
      exact iff_of_true (fun shown => absurd shown (by decide)) fun shown => absurd shown (by decide)
    · rfl
  unfold loadConfigField
  rw [← renamed]
  generalize (if key == "env_files" then "declaration_files" else key) = key
  split
  · refine (Outcome.returns_bind_iff fun _ _ => Outcome.returns_pure _).trans ?_
    exact (loadTable_returns loadRule_returns _ _).trans isTable_object.symm
  · next other => exact refuse_notTable_returns other
  · refine (Outcome.returns_bind_iff fun _ _ => Outcome.returns_pure _).trans ?_
    exact (loadTable_returns loadEnvironment_returns _ _).trans isTable_object.symm
  · next other => exact refuse_notTable_returns other
  · exact (Outcome.returns_bind_iff fun _ _ => Outcome.returns_pure _).trans (loadMatrix_returns _ _)
  · exact loadSecretPatterns_returns _ _ _
  · next noRules noEnvironments noMatrix noSecrets _ _ =>
    rw [loadPlainField_returns set?_tells]
    unfold IsField
    split
    · exact (noRules rfl).elim
    · exact (noEnvironments rfl).elim
    · exact (noMatrix rfl).elim
    · exact (noSecrets rfl).elim
    · rfl

def IsLoadable : Json → Prop := IsSection IsField

theorem load_returns (value : Json) : Returns (load value) ↔ IsLoadable value :=
  loadSection_returns loadConfigField_returns {} "config" value

theorem not_isRule_of_pattern {fields : List (String × Json)} {key setting : String}
    (named : optionName key = "pattern") (stands : (key, .text setting) ∈ fields)
    (beyond : ¬ Pattern.IsJudgeable setting) : ¬ IsRule (.object fields) := by
  intro loadable
  have field := loadable fields rfl (key, .text setting) stands
  rw [named] at field
  have rule : IsRuleField ["type", "required", "secret"] "pattern" (.text setting) := field
  exact beyond (rule.pattern rfl setting rfl)

example : ¬ Pattern.IsJudgeable "a\x7b4294967295\x7d" := by decide +kernel

end Config
end EnvAudit
