import EnvAudit.Proofs.Matrix.Errors

/-! The gaps of a row: the environments that do not declare its variable and need not. A row tells of them at most once,
all together and graded as the configuration demands, and it does so exactly when some environment fills the variable
with a value that is neither empty nor wrong. Being declared somewhere is not enough: where every declared value is
empty or wrong, the gaps are passed over. -/
namespace EnvAudit.Matrix

def environmentsSparing (environments : List Environment) (config : Config) (name : String) : List String :=
  (environments.filter fun environment => !Declaration.declares environment.declarations name &&
    !isDemanded (config.rule? name) environment.name).map (·.name)

def environmentsDeclaring (environments : List Environment) (name : String) : List String :=
  (environments.filter fun environment => Declaration.declares environment.declarations name).map (·.name)

def isFilled (config : Config) (name : String) (environment : Environment) : Bool :=
  (Declaration.find? environment.declarations name).any (·.value != "") && (errorIn? config name environment).isNone

def environmentsFilling (environments : List Environment) (config : Config) (name : String) : List String :=
  (environments.filter (isFilled config name)).map (·.name)

def gapsBeside (config : Config) (present gaps : List String) : List (Severity × List String) :=
  if present = [] ∨ gaps = [] ∨ consistencyOf config = .off then [] else [(gapSeverity config, gaps)]

def Row.gaps (row : Row) : List (Severity × List String) :=
  (row.findings.filter (·.kind == .inconsistent)).map fun finding => (finding.severity, finding.environments)

/-- Whether the findings of a row are exact about its gaps, and whether they are as though a variable were present
wherever it is declared. -/
structure Row.TellsGaps (row : Row) (environments : List Environment) (config : Config) : Prop where
  filled : row.gaps = gapsBeside config (environmentsFilling environments config row.name)
    (environmentsSparing environments config row.name)
  declared : row.gaps = gapsBeside config (environmentsDeclaring environments row.name)
      (environmentsSparing environments config row.name) ↔
    (environmentsDeclaring environments row.name ≠ [] → environmentsSparing environments config row.name ≠ [] →
      consistencyOf config ≠ .off → environmentsFilling environments config row.name ≠ [])

section Cells
variable {config : Config} {name : String} {environment : Environment} {own : Cell}

theorem isGap_of_cell
    (judged : cell (Declaration.find? environment.declarations name) (config.rule? name)
      ((config.rule? name).bind (·.override? environment.name)) environment.name = .ok own) :
    own.isGap = (!Declaration.declares environment.declarations name &&
      !isDemanded (config.rule? name) environment.name) := by
  rw [Declaration.declares_eq]
  cases found : Declaration.find? environment.declarations name with
  | none =>
    rw [found] at judged
    cases judged
    rw [absentCell, isRequired_eq]
    cases isDemanded (config.rule? name) environment.name <;> rfl
  | some declaration =>
    rw [found] at judged
    obtain ⟨error?, _, same⟩ := Outcome.bind_eq_ok.mp judged
    cases same
    have declared : (declaredCell declaration (config.rule? name) error?).status ≠ .missing := by
      unfold declaredCell
      dsimp only
      split
      · simp
      · split <;> simp
    simp [Cell.isGap, declared]

theorem status_of_cell
    (judged : cell (Declaration.find? environment.declarations name) (config.rule? name)
      ((config.rule? name).bind (·.override? environment.name)) environment.name = .ok own) :
    (own.status == .set) = isFilled config name environment := by
  have wrong := errorIn?_of_cell judged ""
  unfold isFilled
  cases found : Declaration.find? environment.declarations name with
  | none =>
    rw [found] at judged
    cases judged
    unfold absentCell
    split <;> rfl
  | some declaration =>
    rw [found] at judged
    obtain ⟨error?, _, same⟩ := Outcome.bind_eq_ok.mp judged
    cases same
    cases error? with
    | some error =>
      rw [wrong]
      simp [declaredCell]
    | none =>
      rw [wrong]
      by_cases empty : declaration.value = ""
      · simp [declaredCell, empty]
      · simp [declaredCell, empty]

end Cells

section Rows
variable {config : Config} {name : String} {environments : List Environment} {exclude : List String}

theorem environmentsFilling_subset :
    environmentsFilling environments config name ⊆ environmentsDeclaring environments name := by
  apply List.map_subset
  intro environment member
  obtain ⟨listed, filled⟩ := List.mem_filter.mp member
  refine List.mem_filter.mpr ⟨listed, ?_⟩
  rw [Declaration.declares_eq]
  cases found : Declaration.find? environment.declarations name with
  | none => simp [isFilled, found] at filled
  | some declaration => rfl

theorem having_names {property : Cell → Bool} {cells : List (String × Cell)} {keep : Environment → Bool}
    (same : ∀ environment ∈ environments, property (cellOf cells environment.name) = keep environment) :
    having property cells (environments.map (·.name)) = (environments.filter keep).map (·.name) := by
  rw [having, List.filter_map]
  congr 1
  apply List.filter_congr
  exact same

theorem gaps_of_rowOf (distinct : (environments.map (·.name)).Nodup) {row : Row}
    (ok : rowOf config environments name = .ok row) :
    row.gaps = gapsBeside config (environmentsFilling environments config row.name)
      (environmentsSparing environments config row.name) := by
  obtain ⟨cells, made, rfl⟩ := rowOf_eq_ok.mp ok
  have present : having (·.status == .set) cells (environments.map (·.name)) =
      environmentsFilling environments config name :=
    having_names fun environment member => status_of_cell (cellOf_of_mem distinct made member)
  have gaps : having Cell.isGap cells (environments.map (·.name)) = environmentsSparing environments config name :=
    having_names fun environment member => isGap_of_cell (cellOf_of_mem distinct made member)
  rw [Row.gaps, filter_findings]
  simp only [gapFindings, present, gaps, gapsBeside, List.isEmpty_iff, Bool.or_eq_true, beq_iff_eq, or_assoc]
  split <;> rfl

/-- Taking a variable for present where it is declared makes a difference only if no environment fills it. -/
theorem gapsBeside_filling_iff : gapsBeside config (environmentsFilling environments config name)
      (environmentsSparing environments config name) =
    gapsBeside config (environmentsDeclaring environments name) (environmentsSparing environments config name) ↔
      (environmentsDeclaring environments name ≠ [] → environmentsSparing environments config name ≠ [] →
        consistencyOf config ≠ .off → environmentsFilling environments config name ≠ []) := by
  have declared : environmentsDeclaring environments name = [] → environmentsFilling environments config name = [] := by
    intro undeclared
    exact List.subset_nil.mp (undeclared ▸ environmentsFilling_subset)
  unfold gapsBeside
  by_cases undeclared : environmentsDeclaring environments name = []
  · simp [undeclared, declared undeclared]
  · by_cases unfilled : environmentsFilling environments config name = []
    · simp [undeclared, unfilled]
    · simp [undeclared, unfilled]

/-- A comparison of environments with different names gives rows that are exact about gaps, one for every compared
variable, exactly when each value that takes part can be judged. -/
theorem gaps_exact_iff (distinct : (environments.map (·.name)).Nodup) :
    (∃ found, rows environments config exclude = .ok found ∧ found.map (·.name) = names environments config exclude ∧
      ∀ row ∈ found, row.TellsGaps environments config) ↔ IsComparable environments config exclude := by
  rw [← rows_returns]
  constructor
  · rintro ⟨found, made, _⟩
    exact ⟨found, made⟩
  · rintro ⟨found, made⟩
    refine ⟨found, made, names_of_rows made, fun row member => ?_⟩
    have told := gaps_of_rowOf distinct (rowOf_of_mem made member).2
    exact ⟨told, told ▸ gapsBeside_filling_iff⟩

theorem gaps_exact_stages : (stages.map (·.name)).Nodup ∧ ∃ found, rows stages stageRules ["X*"] = .ok found ∧
    found.map (·.name) = names stages stageRules ["X*"] ∧ ∀ row ∈ found, row.TellsGaps stages stageRules := by
  have distinct : (stages.map (·.name)).Nodup := by decide
  obtain ⟨found, made, _⟩ := rows_stages
  exact ⟨distinct, (gaps_exact_iff distinct).mpr (rows_returns.mp ⟨found, made⟩)⟩

example : environmentsDeclaring stages "B" = ["staging"] ∧ environmentsSparing stages stageRules "B" = ["production"] ∧
    environmentsFilling stages stageRules "B" = [] := by decide

end Rows
end EnvAudit.Matrix
