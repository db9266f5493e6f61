import EnvAudit.Matrix.Cell
import EnvAudit.Proofs.Audit.Restriction

/-! A declared value is judged in two places: where a project's code reads it, and in the grid of environments. Where
an environment changes nothing in a rule that constrains the value, both judgements end alike and name the same failing
constraint. What an analysis of several variables tells about one of them also needs that no other variable stops it. -/
namespace EnvAudit

namespace Outcome

/-- Whether two operations end alike: in the same failure, or with results that correspond. -/
def EndAlike {α β : Type} (correspond : α → β → Prop) : Except Failure α → Except Failure β → Prop
  | .ok a, .ok b => correspond a b
  | .error failure, .error other => failure = other
  | _, _ => False

variable {α β γ δ : Type} {correspond : γ → δ → Prop}

theorem EndAlike.of_ok {value : γ} {outcome : Except Failure δ} (alike : EndAlike correspond (.ok value) outcome) :
    ∃ other, outcome = .ok other ∧ correspond value other := by
  cases outcome with
  | error failure => exact alike.elim
  | ok other => exact ⟨other, rfl, alike⟩

theorem EndAlike.of_error {outcome : Except Failure γ} {outcome' : Except Failure δ} {failure : Failure}
    (alike : EndAlike correspond outcome outcome') (failed : outcome = .error failure) : outcome' = .error failure := by
  subst failed
  cases outcome' with
  | error other => exact congrArg Except.error (Eq.symm alike)
  | ok value => exact alike.elim

theorem EndAlike.bind {first : Except Failure α} {next : α → Except Failure γ} {next' : α → Except Failure δ}
    (alike : ∀ value, first = .ok value → EndAlike correspond (next value) (next' value)) :
    EndAlike correspond (first >>= next) (first >>= next') := by
  cases first with
  | error failure => exact rfl
  | ok value => exact alike value rfl

theorem EndAlike.andThen {related : α → β → Prop} {first : Except Failure α} {first' : Except Failure β}
    {next : α → Except Failure γ} {next' : β → Except Failure δ} (begun : EndAlike related first first')
    (alike : ∀ value other, related value other → EndAlike correspond (next value) (next' other)) :
    EndAlike correspond (first >>= next) (first' >>= next') := by
  cases first with
  | error failure =>
    cases first' with
    | error other => exact begun
    | ok other => exact begun.elim
  | ok value =>
    obtain ⟨other, ok, related⟩ := begun.of_ok
    subst ok
    exact alike value other related

theorem EndAlike.mapM {step : α → Except Failure γ} {step' : α → Except Failure δ}
    (steps : ∀ item, EndAlike correspond (step item) (step' item)) (items : List α) :
    EndAlike (List.Forall₂ correspond) (items.mapM step) (items.mapM step') := by
  induction items with
  | nil => exact List.Forall₂.nil
  | cons item items ih =>
    rw [List.mapM_cons, List.mapM_cons]
    apply (steps item).andThen
    intro value other head
    apply ih.andThen
    intro values others tail
    exact List.Forall₂.cons head tail

end Outcome

/-- Whether a violation is one of the constraints, and for a type one that values can fail to have. -/
def Violation.IsOf (c : Constraints) : Violation → Prop
  | .type expected => c.type = some expected ∧ ∃ expectation, expected.expectation? = some expectation
  | .pattern expected => c.pattern = some expected
  | .enum allowed => c.enum = some allowed

namespace Constraints
variable {c : Constraints} {value : String}

theorem isOf_of_violation? {violation : Violation} (violated : c.violation? value = .ok (some violation)) :
    violation.IsOf c := by
  have expectation (type : ValueType) (same : violation = .type type) :
      ∃ expectation, type.expectation? = some expectation :=
    expectation?_of_violation? (same ▸ violated)
  rw [violation?, Outcome.bind_eq_ok] at violated
  obtain ⟨typed, _, rest⟩ := violated
  cases typed with
  | false =>
    obtain ⟨type, demanded, rfl⟩ := Option.map_eq_some_iff.mp (Except.ok.inj rest)
    exact ⟨demanded, expectation type rfl⟩
  | true =>
    obtain ⟨matched, _, rest⟩ := Outcome.bind_eq_ok.mp rest
    cases matched with
    | false =>
      obtain ⟨pattern, demanded, rfl⟩ := Option.map_eq_some_iff.mp (Except.ok.inj rest)
      exact demanded
    | true =>
      simp only [Bool.not_true, Bool.false_eq_true, if_false] at rest
      split at rest
      · obtain ⟨allowed, demanded, rfl⟩ := Option.map_eq_some_iff.mp (Except.ok.inj rest)
        exact demanded
      · cases rest

theorem violation?_ne_noExpectation (type : String) : c.violation? value ≠ .error (.noExpectation type) := by
  have typed : c.admitsType value ≠ .error (.noExpectation type) := by
    rw [admitsType]
    split
    · next demanded _ =>
      cases demanded <;> simp only [ValueType.admits, ne_eq, reduceCtorEq, not_false_eq_true]
      rw [Json.isWritten]
      split <;> simp
    · simp
  have patterned : c.admitsPattern value ≠ .error (.noExpectation type) := by
    rw [admitsPattern]
    split
    · simp
    · next setting _ =>
      intro failed
      rcases Outcome.bind_eq_error.mp failed with failed | ⟨compiled, _, failed⟩
      · rw [Pattern.tryCompile] at failed
        split at failed
        · cases failed
        · cases failed
        · next fault _ _ => cases fault <;> cases failed
      · cases compiled <;> cases failed
  intro failed
  rcases Outcome.bind_eq_error.mp failed with failed | ⟨admitted, _, failed⟩
  · exact typed failed
  · split at failed
    · cases failed
    · rcases Outcome.bind_eq_error.mp failed with failed | ⟨matched, _, failed⟩
      · exact patterned failed
      · split at failed
        · cases failed
        · split at failed <;> cases failed

end Constraints

namespace Matrix

structure NameSameConstraint (rule : Rule) (issue : Issue) (error : String) : Prop where
  type (expected : ValueType) :
    (issue.kind = .typeMismatch ∧ issue.context.lookup "expected" = some (.text expected.name)) ↔
      expected.expectation?.map (·.shortError) = some error
  pattern : (issue.kind = .invalidValue ∧ ∃ pattern, rule.constraints.pattern = some pattern ∧
      issue.context.lookup "pattern" = some (.text pattern)) ↔ error = "Value does not match required pattern"
  enum : (issue.kind = .invalidValue ∧ ∃ allowed, rule.constraints.enum = some allowed ∧
      issue.context.lookup "expected" = some (.list (allowed.map .text))) ↔
    ∃ allowed, rule.constraints.enum = some allowed ∧ error = "Value must be one of: " ++ joinWith ", " allowed

/-- Whether both judgements accept a value, or both reject it for the same constraint. -/
inductive SameVerdict (rule : Rule) : Option Issue → Option String → Prop
  | accepted : SameVerdict rule none none
  | rejected {issue : Issue} {error : String} (severity : issue.severity = .error)
      (constraint : NameSameConstraint rule issue error) : SameVerdict rule (some issue) (some error)

theorem ne_enumError {error : String} (differs : error.toList.take 22 ≠ "Value must be one of: ".toList)
    (rest : String) : error ≠ "Value must be one of: " ++ rest := by
  rintro rfl
  apply differs
  rw [String.toList_append, List.take_append_of_le_length (by decide)]
  rfl

theorem shortError_injective {type other : ValueType} {expectation : Expectation}
    (expected : type.expectation? = some expectation) :
    type.name = other.name ↔ other.expectation?.map (·.shortError) = some expectation.shortError := by
  cases type <;> cases expected <;> cases other <;> decide

theorem ofViolation_alike (rule : Rule) (declaration : Declaration) (shown : String) {violation : Violation}
    (stated : violation.IsOf rule.constraints) :
    ∃ issue error, Mismatch.ofViolation declaration shown violation = .ok issue ∧
      violationText violation = .ok error ∧ SameVerdict rule (some issue) (some error) := by
  cases violation with
  | type type =>
    obtain ⟨_, expectation, expected⟩ := stated
    refine ⟨_, expectation.shortError, by rw [Mismatch.ofViolation, expected], by rw [violationText, expected], ?_⟩
    refine .rejected rfl ⟨?_, ?_, ?_⟩
    · intro other
      rw [← shortError_injective expected]
      simp
    · simp only [reduceCtorEq, false_and, false_iff]
      cases type <;> cases expected <;> decide
    · simp only [reduceCtorEq, false_and, false_iff, not_exists, not_and]
      intro allowed _
      apply ne_enumError
      cases type <;> cases expected <;> decide
  | pattern pattern =>
    refine ⟨_, _, rfl, rfl, .rejected rfl ⟨?_, ?_, ?_⟩⟩
    · intro other
      cases other <;> simp [ValueType.expectation?]
    · simp only [true_and, iff_true]
      exact ⟨pattern, stated, rfl⟩
    · simp only [true_and]
      constructor
      · rintro ⟨_, _, listed⟩
        simp [List.lookup_cons] at listed
      · rintro ⟨allowed, _, same⟩
        exact absurd same (ne_enumError (by decide) _)
  | enum allowed =>
    refine ⟨_, _, rfl, rfl, .rejected rfl ⟨?_, ?_, ?_⟩⟩
    · intro other
      simp only [reduceCtorEq, false_and, false_iff, Option.map_eq_some_iff, not_exists, not_and]
      intro expectation expected
      apply ne_enumError
      cases other <;> cases expected <;> decide
    · simp only [true_and]
      constructor
      · rintro ⟨_, _, listed⟩
        simp [List.lookup_cons] at listed
      · intro same
        exact absurd same.symm (ne_enumError (by decide) _)
    · simp only [true_and]
      constructor
      · rintro ⟨_, _, _⟩
        exact ⟨allowed, stated, rfl⟩
      · rintro ⟨_, _, _⟩
        exact ⟨allowed, stated, rfl⟩

variable {declared : List Declaration} {used : List Usage} {config : Config} {declaration : Declaration} {rule : Rule}

theorem valueError?_alike (declaration : Declaration) (rule : Rule) (environment : String) :
    Outcome.EndAlike (SameVerdict rule) (Mismatch.byRule? declaration rule)
      (valueError? declaration.value (some rule) none environment) := by
  apply Outcome.EndAlike.bind
  intro violation violated
  cases violation with
  | none => exact .accepted
  | some violation =>
    obtain ⟨issue, error, told, written, verdict⟩ := ofViolation_alike rule declaration
      (Secret.mask declaration.value (declaration.isSecret || rule.secret)) (Constraints.isOf_of_violation? violated)
    simp only [told, written]
    exact verdict

theorem valueError?_ne_noExpectation (value : String) (rule : Option Rule) (change : Option Override)
    (environment type : String) : valueError? value rule change environment ≠ .error (.noExpectation type) := by
  rw [valueError?]
  split
  · simp
  · intro failed
    rcases Outcome.bind_eq_error.mp failed with failed | ⟨violation, violated, failed⟩
    · exact Constraints.violation?_ne_noExpectation type failed
    · cases violation with
      | none => cases failed
      | some violation =>
        obtain ⟨_, error, _, written, _⟩ := ofViolation_alike { constraints := constraintsFor rule change } default ""
          (Constraints.isOf_of_violation? violated)
        simp only [written] at failed
        cases failed

/-- A declared variable that code reads, that no entry silences, and whose rule constrains its value. -/
structure IsJudged (declared : List Declaration) (used : List Usage) (config : Config) (declaration : Declaration)
    (rule : Rule) : Prop where
  declared : declaration ∈ declared
  read : declaration.name ∈ Usage.names used
  heard : Ignore.silences config.ignore declaration.name .typeMismatch = false
  ruled : config.rule? declaration.name = some rule
  active : rule.constraints.isActive = true

namespace IsJudged

theorem current?_eq (judged : IsJudged declared used config declaration rule)
    (distinct : (Declaration.names declared).Nodup) :
    Mismatch.current? declared declaration.name = some declaration := by
  obtain ⟨found, current⟩ : ∃ found, Mismatch.current? declared declaration.name = some found :=
    Option.isSome_iff_exists.mp (List.find?_isSome.mpr ⟨declaration, by simpa using judged.declared, by simp⟩)
  have same : found.name = declaration.name := by simpa using List.find?_some current
  have member : found ∈ declared := by simpa using List.mem_of_find?_eq_some current
  rw [current, List.inj_on_of_nodup_map distinct member judged.declared same]

theorem ofName?_eq (judged : IsJudged declared used config declaration rule)
    (distinct : (Declaration.names declared).Nodup) :
    Mismatch.ofName? declared used config declaration.name = Mismatch.byRule? declaration rule := by
  have subject : Mismatch.subject? declared config declaration.name = some declaration := by
    rw [Mismatch.subject?, judged.heard, if_neg Bool.false_ne_true, judged.current?_eq distinct]
  have active : Mismatch.activeRule? config declaration.name = some rule := by
    rw [Mismatch.activeRule?, judged.ruled, Option.filter_some, if_pos judged.active]
  rw [Mismatch.ofName?, subject]
  simp only [active]

/-- An analysis that returns tells of a variable exactly what the check of its value makes. -/
theorem found_eq (judged : IsJudged declared used config declaration rule)
    (distinct : (Declaration.names declared).Nodup) {found : List Issue}
    (ok : Mismatch.issues declared used config = .ok found) :
    found.filter (·.name == declaration.name) = Mismatch.made (Mismatch.byRule? declaration rule) := by
  have read : declaration.name ∈ Mismatch.readNames used := Text.mem_distinct.mpr judged.read
  have unique : (Mismatch.readNames used).Nodup := Text.nodup_distinct _
  have once : (Mismatch.readNames used).filter (· == declaration.name) = [declaration.name] := by
    rw [List.filter_beq, List.count_eq_one_of_mem unique read, List.replicate_one]
  rw [Mismatch.issues_filter (· == declaration.name) ok, once, List.flatMap_singleton, judged.ofName?_eq distinct]

end IsJudged

/-- Whether what an analysis found about a variable and the state of a cell say the same. -/
structure FoundAlike (rule : Rule) (name : String) (found : List Issue) (state : Cell) : Prop where
  verdict : ∃ verdict : Option Issue,
    found.filter (·.name == name) = verdict.toList ∧ SameVerdict rule verdict state.error
  invalid : (∃ issue ∈ found, issue.name = name ∧ issue.severity = .error) ↔ state.status = .invalid

theorem FoundAlike.of_verdict {name : String} {found : List Issue} {verdict : Option Issue} {error : Option String}
    (told : found.filter (·.name == name) = verdict.toList) (same : SameVerdict rule verdict error) :
    FoundAlike rule name found (declaredCell declaration (some rule) error) := by
  refine ⟨⟨verdict, told, same⟩, ?_⟩
  have about (issue : Issue) : issue ∈ found ∧ issue.name = name ↔ issue ∈ verdict.toList := by
    rw [← told, List.mem_filter, beq_iff_eq]
  simp only [← and_assoc, about]
  cases same with
  | accepted =>
    by_cases empty : declaration.value = "" <;> simp [declaredCell, empty]
  | rejected severity constraint => simp [declaredCell, severity]

/-- Where an environment gives a judged variable the same value and changes nothing in its rule, both judgements end
alike, and neither misses what the violated type is called. The analysis and the grid agree on the variable exactly
when nothing stops the analysis at any variable that code reads. -/
theorem judged_alike (environment : Environment) {other : Declaration}
    (distinct : (Declaration.names declared).Nodup) (judged : IsJudged declared used config declaration rule)
    (declaredHere : Declaration.find? environment.declarations declaration.name = some other)
    (same : other.value = declaration.value) (unchanged : rule.override? environment.name = none) :
    ((∃ found state, Mismatch.issues declared used config = .ok found ∧
        cell (Declaration.find? environment.declarations declaration.name) (config.rule? declaration.name)
          (rule.override? environment.name) environment.name = .ok state ∧
        FoundAlike rule declaration.name found state) ↔
      ∀ name ∈ Mismatch.readNames used, Mismatch.IsCheckable declared used config name) ∧
    Outcome.EndAlike (SameVerdict rule) (Mismatch.byRule? declaration rule)
      (valueError? other.value (config.rule? declaration.name) (rule.override? environment.name) environment.name) ∧
    ∀ type, Mismatch.byRule? declaration rule ≠ .error (.noExpectation type) ∧
      valueError? other.value (config.rule? declaration.name) (rule.override? environment.name) environment.name ≠
        .error (.noExpectation type) := by
  have alike := valueError?_alike declaration rule environment.name
  rw [judged.ruled, unchanged, same, declaredHere]
  refine ⟨?_, alike, ?_⟩
  · rw [← Mismatch.issues_returns]
    constructor
    · rintro ⟨found, _, ok, _⟩
      exact ⟨found, ok⟩
    · rintro ⟨found, ok⟩
      have told := judged.found_eq distinct ok
      -- The analysis has judged every variable that is read, and so this one.
      have checkable := Mismatch.issues_returns.mp ⟨found, ok⟩ declaration.name (Text.mem_distinct.mpr judged.read)
      obtain ⟨verdict, made⟩ := Mismatch.ofName?_returns.mpr checkable
      rw [judged.ofName?_eq distinct] at made
      rw [made] at alike told
      obtain ⟨error, written, verdicts⟩ := alike.of_ok
      refine ⟨found, declaredCell other (some rule) error, ok, ?_, .of_verdict ?_ verdicts⟩
      · rw [cell, same, written]
        rfl
      · rw [told]
        cases verdict <;> rfl
  · intro type
    have judgedHere := valueError?_ne_noExpectation declaration.value (some rule) none environment.name type
    exact ⟨fun failed => judgedHere (alike.of_error failed), judgedHere⟩

def wordAndText (text : String) : List Declaration :=
  [{ name := "V", value := "word", line := 1, file := ".env" },
    { name := "W", value := text, line := 2, file := ".env" }]

def wordAndTextReads : List Usage :=
  [{ name := "V", file := "src/index.ts", line := 1, column := 0, access := .direct },
    { name := "W", file := "src/index.ts", line := 2, column := 0, access := .direct }]

def wordAndTextRules : Config where
  ruleEntries := [("V", .read { constraints := { type := some .number } }),
    ("W", .read { constraints := { type := some .json } })]

theorem wordAndText_judged (text : String) : IsJudged (wordAndText text) wordAndTextReads wordAndTextRules
    { name := "V", value := "word", line := 1, file := ".env" } { constraints := { type := some .number } } where
  declared := by simp [wordAndText]
  read := by
    have names : Usage.names wordAndTextReads = ["V", "W"] := rfl
    simp [names]
  heard := rfl
  ruled := rfl
  active := rfl

theorem wordAndText_checkable {text : String} :
    (∀ name ∈ Mismatch.readNames wordAndTextReads,
      Mismatch.IsCheckable (wordAndText text) wordAndTextReads wordAndTextRules name) ↔
      ¬ Json.IsTooDeep text.toList := by
  have names : Mismatch.readNames wordAndTextReads = ["V", "W"] := rfl
  rw [names]
  constructor
  · intro checkable
    have second := checkable "W" (by simp) _ rfl
    exact second.shallow rfl
  · intro shallow name read declaration subject
    rcases List.mem_pair.mp read with rfl | rfl
    · cases subject
      refine ⟨fun demanded => ?_, fun setting active => ?_⟩
      · cases demanded
      · cases active
    · cases subject
      refine ⟨fun _ => shallow, fun setting active => ?_⟩
      cases active

theorem judged_alike_word : ∃ found state,
    Mismatch.issues (wordAndText "[]") wordAndTextReads wordAndTextRules = .ok found ∧
    cell (some { name := "V", value := "word", line := 1, file := ".env.production" })
      (some { constraints := { type := some .number } }) none "production" = .ok state ∧
    FoundAlike { constraints := { type := some .number } } "V" found state :=
  (judged_alike ⟨"production", [".env.production"],
      [{ name := "V", value := "word", line := 1, file := ".env.production" }], none⟩
    (by decide) (wordAndText_judged "[]") rfl rfl rfl).1.mpr (wordAndText_checkable.mpr (by rintro ⟨⟩))

/-- A value that nests too deeply takes the error about another variable from the analysis. The grid keeps it. -/
theorem lost_of_deep_value {count : Nat} (deep : Json.nestingLimit < count) :
    ¬ Returns (Mismatch.issues (wordAndText (String.ofList (List.replicate count '['))) wordAndTextReads
      wordAndTextRules) ∧
    valueError? "word" (wordAndTextRules.rule? "V") none "production" = .ok (some "Expected a number") := by
  refine ⟨?_, rfl⟩
  rw [Mismatch.issues_returns, wordAndText_checkable, not_not, String.toList_ofList]
  simpa using Json.isTooDeep_brackets deep []

end Matrix
end EnvAudit
