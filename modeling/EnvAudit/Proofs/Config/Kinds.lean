import EnvAudit.Config.Loader
import EnvAudit.Proofs.Outcome

/-! What the options of a configuration take, by kinds of values: a table for every section, with the kind of each
option, and the proof that a field is set exactly when its value is of the kind that its option takes. -/
namespace EnvAudit.Config

def isPattern (setting : String) : Bool := (Pattern.ofSetting setting).isOk

inductive Kind
  | any
  | text
  | flag
  | texts
  | choice (names : List String)
  | pattern
  | scalar
  | scalars
  | orNull (kind : Kind)

def isText : Json → Bool
  | .text _ => true
  | _ => false

def isScalar : Json → Bool
  | .bool _ | .int _ | .real _ | .text _ => true
  | .null | .list _ | .object _ => false

def Kind.admits : Kind → Json → Bool
  | .any, _ => true
  | .text, value => isText value
  | .flag, .bool _ => true
  | .texts, .list items => items.all isText
  | .choice names, .text name => names.contains name
  | .pattern, .text setting => isPattern setting
  | .scalar, value => isScalar value
  | .scalars, .list items => items.all isScalar
  | .orNull _, .null => true
  | .orNull kind, value => kind.admits value
  | _, _ => false

/-- The kind of what is stored of a value: scalars are stored as texts, and a pattern is a text as well. -/
def Kind.stored : Kind → Kind
  | .pattern | .scalar => .text
  | .scalars => .texts
  | .orNull kind => .orNull kind.stored
  | kind => kind

def constraintKind? : String → Option Kind
  | "type" => some (.orNull (.choice (ValueType.all.map ValueType.name)))
  | "pattern" => some (.orNull .pattern)
  | "enum" => some (.orNull .scalars)
  | _ => none

def overrideKind? : String → Option Kind
  | "required" => some (.orNull .flag)
  | "must_be" => some (.orNull .scalar)
  | "message" => some (.orNull .text)
  | key => constraintKind? key

def ruleKind? : String → Option Kind
  | "required" => some .flag
  | "secret" => some .flag
  | "default" => some .any
  | "description" => some (.orNull .text)
  | "docs_url" => some (.orNull .text)
  | key => constraintKind? key

def environmentKind? : String → Option Kind
  | "files" => some .texts
  | "description" => some (.orNull .text)
  | "strict" => some .flag
  | _ => none

def matrixKind? : String → Option Kind
  | "require_consistency" => some (.choice (Consistency.all.map Consistency.name))
  | "exclude_from_matrix" => some .texts
  | _ => none

def configKind? : String → Option Kind
  | "root" => some .text
  | "declaration_files" => some .texts
  | "template_file" => some (.orNull .text)
  | "include" => some .texts
  | "exclude" => some .texts
  | "framework" => some (.choice ("auto" :: Framework.all.map Framework.name))
  | "ignore" => some .texts
  | "strict" => some .flag
  | "secret_patterns" => some .texts
  | _ => none

section Fields
variable {α β : Type} {slot : Slot} {value : Json}

@[simp] theorem isOk_map (result : Except Refusal α) (f : α → β) : (result.map f).isOk = result.isOk := by
  cases result <;> rfl

@[simp] theorem stringField_isOk : (stringField slot value).isOk = Kind.text.admits value := by
  cases value <;> rfl

@[simp] theorem stringField?_isOk : (stringField? slot value).isOk = (Kind.orNull .text).admits value := by
  cases value <;> rfl

@[simp] theorem booleanField_isOk : (booleanField slot value).isOk = Kind.flag.admits value := by
  cases value <;> rfl

@[simp] theorem booleanField?_isOk : (booleanField? slot value).isOk = (Kind.orNull .flag).admits value := by
  cases value <;> rfl

theorem strings_isOk (items : List Json) : (strings slot items).isOk = items.all isText := by
  induction items with
  | nil => rfl
  | cons item rest ih => cases item <;> simp [strings, isText, ih] <;> rfl

@[simp] theorem listField_isOk : (listField slot value).isOk = Kind.texts.admits value := by
  cases value with
  | list items => exact strings_isOk items
  | _ => rfl

@[simp] theorem listField?_isOk : (listField? slot value).isOk = (Kind.orNull .texts).admits value := by
  cases value with
  | list items => exact (isOk_map _ _).trans (strings_isOk items)
  | _ => rfl

theorem isSome_find?_name (choices : List α) (name : α → String) (wanted : String) :
    (choices.find? (name · == wanted)).isSome = (choices.map name).contains wanted := by
  induction choices with
  | nil => rfl
  | cons choice rest ih =>
    rw [List.find?_cons, List.map_cons, List.contains_cons, Bool.beq_comm, ← ih]
    cases wanted == name choice <;> rfl

theorem choiceField_isOk {ofName? : String → Option α} {choices names : List String}
    (known : ∀ name, (ofName? name).isSome = names.contains name) :
    (choiceField slot ofName? choices value).isOk = (Kind.choice names).admits value := by
  cases value with
  | text name =>
    rw [Kind.admits, ← known, choiceField]
    have found : (Json.text name).text?.bind ofName? = ofName? name := rfl
    rw [found]
    cases ofName? name <;> rfl
  | _ => rfl

@[simp] theorem typeField_isOk : (typeField slot value).isOk =
    (Kind.orNull (.choice (ValueType.all.map ValueType.name))).admits value := by
  rw [typeField]
  split
  · next nothing => cases value <;> cases nothing; rfl
  · next something =>
    have known : ∀ name, (ValueType.ofName? name).isSome = (ValueType.all.map ValueType.name).contains name :=
      isSome_find?_name ValueType.all ValueType.name
    rw [isOk_map, choiceField_isOk known]
    cases value with
    | null => exact absurd rfl something
    | _ => rfl

@[simp] theorem frameworkField_isOk : (frameworkField slot value).isOk =
    (Kind.choice ("auto" :: Framework.all.map Framework.name)).admits value := by
  apply choiceField_isOk
  intro name
  rw [List.contains_cons, ← isSome_find?_name Framework.all Framework.name]
  split
  · next auto => simp [auto]
  · next other => simp [other, Framework.ofName?]

end Fields

section Setters
variable {α : Type}

def Fits (set? : String → Json → α → Option (Except Refusal α)) (kind? : String → Option Kind) : Prop :=
  ∀ key value old, (set? key value old).map Except.isOk = (kind? key).map (·.stored.admits value)

theorem setConstraint?_fits (owner : String) : Fits (setConstraint? owner) constraintKind? := by
  intro key value old
  unfold setConstraint? constraintKind?
  split <;> simp [Kind.stored]

theorem constraint_fits (owner key : String) (value : Json) (old : Constraints) (f : Constraints → α) :
    ((setConstraint? owner key value old).map (·.map f)).map Except.isOk =
      (constraintKind? key).map (·.stored.admits value) := by
  rw [← setConstraint?_fits owner key value old, Option.map_map]
  congr 1
  funext result
  exact isOk_map result f

theorem Override.set?_fits : Fits Override.set? overrideKind? := by
  intro key value old
  unfold Override.set?
  split
  · simp [overrideKind?, Kind.stored]
  · simp [overrideKind?, Kind.stored]
  · simp [overrideKind?, Kind.stored]
  · next noRequired noMustBe noMessage =>
    rw [constraint_fits, overrideKind?.eq_4 key noRequired noMustBe noMessage]

theorem Rule.set?_fits : Fits Rule.set? ruleKind? := by
  intro key value old
  unfold Rule.set?
  split
  · simp [ruleKind?, Kind.stored]
  · simp [ruleKind?, Kind.stored]
  · rfl
  · simp [ruleKind?, Kind.stored]
  · simp [ruleKind?, Kind.stored]
  · next noRequired noSecret noDefault noDescription noDocsUrl =>
    rw [constraint_fits, ruleKind?.eq_6 key noRequired noSecret noDefault noDescription noDocsUrl]

theorem EnvironmentSetting.set?_fits : Fits EnvironmentSetting.set? environmentKind? := by
  intro key value old
  unfold EnvironmentSetting.set? environmentKind?
  split <;> simp [Kind.stored]

theorem MatrixSetting.set?_fits : Fits MatrixSetting.set? matrixKind? := by
  intro key value old
  unfold MatrixSetting.set? matrixKind?
  have known : ∀ name, (Consistency.ofName? name).isSome = (Consistency.all.map Consistency.name).contains name :=
    isSome_find?_name Consistency.all Consistency.name
  split <;> simp [Kind.stored, choiceField_isOk known]

theorem set?_fits : Fits set? configKind? := by
  intro key value old
  unfold set? configKind?
  split <;> simp [Kind.stored]

end Setters

section Loading
variable {α : Type} {set? : String → Json → α → Option (Except Refusal α)} {kind? : String → Option Kind}
  {key path : String} {value : Json} {old : α} {loaded : Loaded α}

/-- Whether loading a field leaves no problem, or else the section as it was and a problem. -/
def Takes (accepted : Bool) (old : α) (loaded : Loaded α) : Prop :=
  if accepted then loaded.problems = [] else loaded.value = old ∧ loaded.problems ≠ []

theorem takes_refused (refusal : Refusal) : Takes false old (.refused old path refusal) :=
  ⟨rfl, List.cons_ne_nil _ _⟩

theorem takes_of_refuse {refusal : Refusal} (ok : Loaded.refuse old path refusal = .ok loaded) :
    Takes false old loaded := by
  rw [Loaded.refuse] at ok
  split at ok
  · cases ok
    exact takes_refused refusal
  · cases ok

theorem loadPlainField_takes (fits : Fits set? kind?) (ok : loadPlainField set? key path value old = .ok loaded) :
    Takes ((kind? key).any (·.stored.admits value)) old loaded := by
  have agrees := fits key value old
  unfold loadPlainField at ok
  cases made : set? key value old with
  | none =>
    rw [made, Option.map_none, eq_comm, Option.map_eq_none_iff] at agrees
    rw [made] at ok
    cases ok
    rw [agrees]
    exact takes_refused .unknownOption
  | some result =>
    rw [made, Option.map_some, eq_comm] at agrees
    obtain ⟨kind, known, admits⟩ := Option.map_eq_some_iff.mp agrees
    rw [known, Option.any_some, admits]
    rw [made] at ok
    cases result with
    | ok new =>
      cases ok
      rfl
    | error refusal => exact takes_of_refuse ok

structure IsRuleTable (kind? : String → Option Kind) : Prop where
  enum : kind? "enum" = some (.orNull .scalars)
  pattern : kind? "pattern" = some (.orNull .pattern)
  mustBe : ∀ kind, kind? "must_be" = some kind → kind = .orNull .scalar
  others : ∀ key, key ≠ "enum" → key ≠ "must_be" → key ≠ "pattern" → ∀ kind, kind? key = some kind → kind.stored = kind

theorem isText_scalarText (value : Json) : isText (scalarText value) = isScalar value := by
  cases value <;> rfl

theorem patternRefusal?_isNone {setting : String} {refusal? : Option Refusal}
    (ok : patternRefusal? setting = .ok refusal?) : refusal?.isNone = isPattern setting := by
  rw [patternRefusal?] at ok
  rw [isPattern]
  cases found : Pattern.ofSetting setting with
  | ok pattern =>
    rw [found] at ok
    cases ok
    rfl
  | error fault =>
    rw [found] at ok
    cases fault <;> cases ok <;> rfl

theorem loadRuleField_takes (fits : Fits set? kind?) (table : IsRuleTable kind?)
    (ok : loadRuleField set? key path value old = .ok loaded) :
    Takes ((kind? key).any (·.admits value)) old loaded := by
  unfold loadRuleField at ok
  split at ok
  · next items =>
    have takes := loadPlainField_takes fits ok
    rw [table.enum] at takes ⊢
    simpa [Kind.stored, Kind.admits, Function.comp_def, isText_scalarText] using takes
  · have takes := loadPlainField_takes fits ok
    cases known : kind? "must_be" with
    | none => rwa [known] at takes
    | some kind =>
      rw [known] at takes
      cases table.mustBe kind known
      have same : (Kind.orNull .scalar).stored.admits (scalarText value) = (Kind.orNull .scalar).admits value := by
        cases value <;> rfl
      rw [Option.any_some, same] at takes
      exact takes
  · have takes := loadPlainField_takes fits ok
    rwa [table.pattern] at takes ⊢
  · next setting =>
    obtain ⟨refusal?, judged, ok⟩ := Outcome.bind_eq_ok.mp ok
    have pattern := patternRefusal?_isNone judged
    rw [table.pattern]
    cases refusal? with
    | some refusal =>
      cases ok
      have refused : (Kind.orNull .pattern).admits (.text setting) = false := pattern.symm
      rw [Option.any_some, refused]
      exact takes_refused refusal
    | none =>
      have takes := loadPlainField_takes fits ok
      have admitted : (Kind.orNull .pattern).admits (.text setting) = true := pattern.symm
      rw [table.pattern] at takes
      rw [Option.any_some, admitted]
      exact takes
  · next noNull noText =>
    cases ok
    have refused : (Kind.orNull .pattern).admits value = false := by
      cases value with
      | null => exact absurd rfl noNull
      | text setting => exact absurd rfl (noText setting)
      | _ => rfl
    rw [table.pattern, Option.any_some, refused]
    exact takes_refused _
  · next noMustBe noPattern noList _ _ =>
    have takes := loadPlainField_takes fits ok
    suffices same : (kind? key).any (·.admits value) = (kind? key).any (·.stored.admits value) by rwa [same]
    by_cases enum : key = "enum"
    · -- What is no list is not converted before it is set.
      subst enum
      rw [table.enum]
      cases value with
      | list items => exact (noList items rfl rfl).elim
      | _ => rfl
    · cases known : kind? key with
      | none => rfl
      | some kind =>
        have plain : kind.stored = kind := table.others key enum noMustBe noPattern kind known
        rw [Option.any_some, Option.any_some, plain]

theorem constraintKind?_stored {kind : Kind} (enum : key ≠ "enum") (pattern : key ≠ "pattern")
    (known : constraintKind? key = some kind) : kind.stored = kind := by
  unfold constraintKind? at known
  split at known
  · cases known
    rfl
  · exact absurd rfl pattern
  · exact absurd rfl enum
  · cases known

theorem overrideKind?_isRuleTable : IsRuleTable overrideKind? where
  enum := rfl
  pattern := rfl
  mustBe := by
    rintro _ ⟨⟩
    rfl
  others := by
    intro key enum mustBe pattern kind known
    unfold overrideKind? at known
    split at known
    · cases known
      rfl
    · exact absurd rfl mustBe
    · cases known
      rfl
    · exact constraintKind?_stored enum pattern known

theorem ruleKind?_isRuleTable : IsRuleTable ruleKind? where
  enum := rfl
  pattern := rfl
  mustBe := by rintro _ ⟨⟩
  others := by
    intro key enum _ pattern kind known
    unfold ruleKind? at known
    split at known
    case h_6 => exact constraintKind?_stored enum pattern known
    all_goals
      cases known
      rfl

def IsPlainTable (kind? : String → Option Kind) : Prop := ∀ key kind, kind? key = some kind → kind.stored = kind

theorem IsPlainTable.takes (plain : IsPlainTable kind?) (fits : Fits set? kind?)
    (ok : loadPlainField set? key path value old = .ok loaded) :
    Takes ((kind? key).any (·.admits value)) old loaded := by
  have takes := loadPlainField_takes fits ok
  cases known : kind? key with
  | none => rwa [known] at takes
  | some kind => rwa [known, Option.any_some, plain key kind known] at takes

theorem environmentKind?_isPlainTable : IsPlainTable environmentKind? := by
  intro key kind known
  unfold environmentKind? at known
  split at known <;> cases known <;> rfl

theorem matrixKind?_isPlainTable : IsPlainTable matrixKind? := by
  intro key kind known
  unfold matrixKind? at known
  split at known <;> cases known <;> rfl

theorem configKind?_isPlainTable : IsPlainTable configKind? := by
  intro key kind known
  unfold configKind? at known
  split at known <;> cases known <;> rfl

end Loading
end EnvAudit.Config
