import EnvAudit.Matrix.Summary
import EnvAudit.Proofs.Matrix.Rows
import Mathlib.Algebra.GroupWithZero.Nat

/-! A comparison is a grid: its rows are in the order of the names and have one cell for every environment, the status
of a row is the worst that is found about it, and the numbers of the summary part the rows and the cells of every
environment among them. -/
namespace EnvAudit

theorem sum_countP_of_partition {α : Type} {properties : List (α → Bool)} {items : List α}
    (parts : ∀ item ∈ items, properties.countP (fun property => property item) = 1) :
    (properties.map fun property => items.countP property).sum = items.length := by
  induction items with
  | nil => simp
  | cons item rest ih =>
    obtain ⟨one, others⟩ := List.forall_mem_cons.mp parts
    have step (properties : List (α → Bool)) : (properties.map fun property => (item :: rest).countP property).sum =
        (properties.map fun property => rest.countP property).sum +
          properties.countP fun property => property item := by
      induction properties with
      | nil => rfl
      | cons property further ih =>
        rw [List.map_cons, List.sum_cons, ih, List.map_cons, List.sum_cons, List.countP_cons, List.countP_cons]
        omega
    rw [step, ih others, one, List.length_cons]

namespace Matrix

section Worst
variable {found : List Finding}

theorem worst_eq_error_iff : worst found = .error ↔ ∃ finding ∈ found, finding.severity = .error := by
  have any : found.any (·.severity == .error) = true ↔ ∃ finding ∈ found, finding.severity = .error := by simp
  rw [worst, ← any]
  split
  · next error => simp [error]
  · next other =>
    simp only [other, Bool.false_eq_true, iff_false]
    split
    · simp
    · split <;> simp

theorem worst_eq_warning_iff : worst found = .warning ↔
    (∀ finding ∈ found, finding.severity ≠ .error) ∧ ∃ finding ∈ found, finding.severity = .warning := by
  have error : found.any (·.severity == .error) = false ↔ ∀ finding ∈ found, finding.severity ≠ .error := by simp
  have warning : found.any (·.severity == .warning) = true ↔ ∃ finding ∈ found, finding.severity = .warning := by simp
  rw [worst, ← error, ← warning]
  cases found.any (·.severity == .error) with
  | true => simp
  | false =>
    cases found.any (·.severity == .warning) with
    | true => simp
    | false =>
      simp only [Bool.false_eq_true, if_false, and_false, iff_false]
      split <;> simp

def AreGraded (found : List Finding) : Prop :=
  ∀ finding ∈ found, finding.severity = .error ∨ finding.severity = .warning ∨ finding.severity = .info

theorem worst_eq_ok_iff (graded : AreGraded found) : worst found = .ok ↔ found = [] := by
  cases found with
  | nil => simp [worst]
  | cons first rest =>
    have one := graded first List.mem_cons_self
    rw [worst]
    rcases one with error | warning | info
    · simp [error]
    · simp only [List.any_cons, warning]
      split <;> simp
    · simp only [List.any_cons, info]
      split
      · simp
      · split <;> simp

theorem worst_eq_info_iff (graded : AreGraded found) :
    worst found = .info ↔ found ≠ [] ∧ ∀ finding ∈ found, finding.severity = .info := by
  constructor
  · intro info
    have filled : found ≠ [] := by
      intro empty
      rw [(worst_eq_ok_iff graded).mpr empty] at info
      cases info
    have noError : ∀ finding ∈ found, finding.severity ≠ .error := by
      intro finding member error
      rw [worst_eq_error_iff.mpr ⟨finding, member, error⟩] at info
      cases info
    refine ⟨filled, fun finding member => ?_⟩
    rcases graded finding member with error | warning | known
    · exact absurd error (noError finding member)
    · rw [worst_eq_warning_iff.mpr ⟨noError, finding, member, warning⟩] at info
      cases info
    · exact known
  · rintro ⟨filled, info⟩
    cases status : worst found with
    | ok => exact absurd ((worst_eq_ok_iff graded).mp status) filled
    | error =>
      obtain ⟨finding, member, error⟩ := worst_eq_error_iff.mp status
      rw [info finding member] at error
      cases error
    | warning =>
      obtain ⟨_, finding, member, warning⟩ := worst_eq_warning_iff.mp status
      rw [info finding member] at warning
      cases warning
    | info => rfl

end Worst

section Findings
variable {config : Config} {rule : Option Rule} {name : String} {cells : List (String × Cell)}
  {environments : List String}

def gapSeverity (config : Config) : Severity := if consistencyOf config = .error then .error else .warning

inductive Tells (config : Config) (rule : Option Rule) (name : String) (cells : List (String × Cell))
    (environments : List String) : FindingKind → Severity → List String → Prop
  | missing (lacking : having Cell.isLacking cells environments ≠ []) :
      Tells config rule name cells environments .missing .error (having Cell.isLacking cells environments)
  | invalid {environment : String} (invalid : environment ∈ having (·.status == .invalid) cells environments) :
      Tells config rule name cells environments .invalid .error [environment]
  | inconsistent (present : having (·.status == .set) cells environments ≠ [])
      (gaps : having Cell.isGap cells environments ≠ []) (demanded : consistencyOf config ≠ .off) :
      Tells config rule name cells environments .inconsistent (gapSeverity config)
        (having Cell.isGap cells environments)
  | differing (values : 1 < (distinctValues cells environments).length)
      (plain : ((rule.map (·.secret)).getD false || environments.any fun e => (cellOf cells e).isSecret) = false)
      (unexpected : name ∉ expectedToDiffer) :
      Tells config rule name cells environments .differing .info environments

theorem tells_iff {kind : FindingKind} {severity : Severity} {concerned : List String} :
    Tells config rule name cells environments kind severity concerned ↔
      ∃ finding ∈ findings config rule name cells environments,
        finding.kind = kind ∧ finding.severity = severity ∧ finding.environments = concerned := by
  simp only [findings, missingFindings, invalidFindings, gapFindings, differingFindings, List.mem_append, List.mem_map,
    List.mem_ite_nil_left, List.mem_singleton, Bool.or_eq_true, List.isEmpty_iff, beq_iff_eq, decide_eq_true_eq,
    List.contains_iff_mem, not_or]
  constructor
  · intro tells
    cases tells with
    | missing lacking => exact ⟨_, .inl (.inl (.inl ⟨lacking, rfl⟩)), rfl, rfl, rfl⟩
    | invalid invalid => exact ⟨_, .inl (.inl (.inr ⟨_, invalid, rfl⟩)), rfl, rfl, rfl⟩
    | inconsistent present gaps demanded => exact ⟨_, .inl (.inr ⟨⟨⟨present, gaps⟩, demanded⟩, rfl⟩), rfl, rfl, rfl⟩
    | differing values plain unexpected =>
      refine ⟨_, .inr ⟨⟨⟨by omega, ?_⟩, unexpected⟩, rfl⟩, rfl, rfl, rfl⟩
      simpa using plain
  · rintro ⟨_, ((⟨lacking, rfl⟩ | ⟨environment, invalid, rfl⟩) | ⟨told, rfl⟩) | ⟨told, rfl⟩, rfl, rfl, rfl⟩
    · exact .missing lacking
    · exact .invalid invalid
    · exact .inconsistent told.1.1 told.1.2 told.2
    · exact .differing (by omega) (by simpa using told.1.2) told.2

theorem Tells.graded {kind : FindingKind} {severity : Severity} {concerned : List String}
    (tells : Tells config rule name cells environments kind severity concerned) :
    severity = .error ∨ severity = .warning ∨ severity = .info := by
  cases tells with
  | missing => exact .inl rfl
  | invalid => exact .inl rfl
  | inconsistent =>
    rw [gapSeverity]
    split
    · exact .inl rfl
    · exact .inr (.inl rfl)
  | differing => exact .inr (.inr rfl)

theorem areGraded_findings : AreGraded (findings config rule name cells environments) :=
  fun finding member => (tells_iff.mpr ⟨finding, member, rfl, rfl, rfl⟩).graded

end Findings

structure IsGrid (environments : List Environment) (config : Config) (exclude : List String) (found : List Row) :
    Prop where
  increasing : (found.map (·.name)).Pairwise (· < ·)
  compared : ∀ name, name ∈ found.map (·.name) ↔
    ((∃ environment ∈ environments, name ∈ Declaration.names environment.declarations) ∨
      name ∈ config.ruleEntries.map (·.1)) ∧ ∀ glob ∈ exclude, NameGlob.covers glob name = false
  cells : ∀ row ∈ found, row.cells.map (·.1) = environments.map (·.name)
  error : ∀ row ∈ found, row.status = .error ↔ ∃ finding ∈ row.findings, finding.severity = .error
  warning : ∀ row ∈ found, row.status = .warning ↔
    (∀ finding ∈ row.findings, finding.severity ≠ .error) ∧ ∃ finding ∈ row.findings, finding.severity = .warning
  info : ∀ row ∈ found, row.status = .info ↔
    row.findings ≠ [] ∧ ∀ finding ∈ row.findings, finding.severity = .info
  ok : ∀ row ∈ found, row.status = .ok ↔ row.findings = []

/-- Whether the numbers of a summary add up: the rows by status and the cells of every environment by state. -/
structure Summary.AddsUp (summary : Summary) (found : List Row) (environments : List String) : Prop where
  rows : summary.totalVariables = found.length
  statuses : summary.consistentVariables + summary.errorCount + summary.warningCount + summary.infoCount =
    summary.totalVariables
  environments : summary.perEnvironment.map (·.1) = environments
  cells : ∀ environment tally, (environment, tally) ∈ summary.perEnvironment →
    tally.total + tally.missing + tally.invalid + countCells Cell.isGap found environment = summary.totalVariables

section Comparison
variable {environments : List Environment} {config : Config} {exclude : List String} {found : List Row}

theorem isGrid_of_rows (distinct : (environments.map (·.name)).Nodup)
    (made : rows environments config exclude = .ok found) : IsGrid environments config exclude found := by
  have built (row : Row) (member : row ∈ found) : row.cells.map (·.1) = environments.map (·.name) ∧
      row.status = worst row.findings ∧ AreGraded row.findings := by
    obtain ⟨_, ok⟩ := rowOf_of_mem made member
    obtain ⟨cells, ok, same⟩ := rowOf_eq_ok.mp ok
    rw [same]
    exact ⟨keys_cellsOf (by simpa using distinct) ok, rfl, areGraded_findings⟩
  have named := names_of_rows made
  refine ⟨named ▸ names_increasing, fun name => named ▸ mem_names, ?_, ?_, ?_, ?_, ?_⟩
  all_goals
    intro row member
    obtain ⟨keys, status, graded⟩ := built row member
  · exact keys
  · exact status ▸ worst_eq_error_iff
  · exact status ▸ worst_eq_warning_iff
  · exact status ▸ worst_eq_info_iff graded
  · exact status ▸ worst_eq_ok_iff graded

theorem sum_statuses (found : List Row) : found.countP (·.status == .ok) + found.countP (·.status == .error) +
    found.countP (·.status == .warning) + found.countP (·.status == .info) = found.length := by
  have parts := @sum_countP_of_partition Row [fun row => row.status == .ok, fun row => row.status == .error,
    fun row => row.status == .warning, fun row => row.status == .info] found (by
      rintro ⟨_, _, status, _⟩ _
      cases status <;> rfl)
  simpa [Nat.add_assoc] using parts

theorem sum_cells (found : List Row) (environment : String) :
    countCells (fun cell => cell.status == .set || cell.status == .empty) found environment +
      countCells Cell.isLacking found environment + countCells (·.status == .invalid) found environment +
      countCells Cell.isGap found environment = found.length := by
  have parts := @sum_countP_of_partition Cell [fun cell => cell.status == .set || cell.status == .empty, Cell.isLacking,
    fun cell => cell.status == .invalid, Cell.isGap] (found.map (·.cell environment)) (by
      rintro ⟨status, valid, _⟩ _
      cases status <;> cases valid <;> rfl)
  simpa [countCells, Function.comp_def, Nat.add_assoc] using parts

theorem summary_addsUp {names : List String} (distinct : names.Nodup) : (summary found names).AddsUp found names where
  rows := rfl
  statuses := sum_statuses found
  environments := by
    rw [summary, Text.distinct_of_nodup distinct, List.map_map]
    exact List.map_id names
  cells := by
    intro environment tally member
    obtain ⟨_, listed, same⟩ := List.mem_map.mp member
    cases same
    have once : names.count environment = 1 := List.count_eq_one_of_mem distinct (Text.mem_distinct.mp listed)
    simp only [Matrix.tally, once, Nat.one_mul]
    exact sum_cells found environment

/-- A comparison of environments with different names returns exactly when each value that takes part can be judged,
and what it returns is a grid whose numbers add up. -/
theorem grid_of_distinct (distinct : (environments.map (·.name)).Nodup) :
    (Returns (rows environments config exclude) ↔ IsComparable environments config exclude) ∧
    ∀ found, rows environments config exclude = .ok found → IsGrid environments config exclude found ∧
      (summary found (environments.map (·.name))).AddsUp found (environments.map (·.name)) :=
  ⟨rows_returns, fun _ made => ⟨isGrid_of_rows distinct made, summary_addsUp distinct⟩⟩

theorem not_returns_of_deep_value {environment : Environment} (member : environment ∈ environments) {name : String}
    {declaration : Declaration} (here : Declaration.find? environment.declarations name = some declaration)
    (taken : ∀ glob ∈ exclude, NameGlob.covers glob name = false) {rule : Rule}
    (ruled : config.rule? name = some rule)
    (free : enforcedError? declaration.value environment.name (rule.override? environment.name) = none)
    (typed : (constraintsFor rule (rule.override? environment.name)).type = some .json)
    (deep : Json.IsTooDeep declaration.value.toList) : ¬ Returns (rows environments config exclude) := by
  rw [rows_returns]
  intro comparable
  have judgeable := comparable environment member name declaration here taken
  rw [ruled, IsJudgeable, Option.bind_some] at judgeable
  exact (judgeable free).shallow typed deep

end Comparison

def stages : List Environment :=
  [⟨"staging", [".env.staging"],
    [{ name := "A", value := "1", line := 1, file := ".env.staging" },
      { name := "B", value := "", line := 2, file := ".env.staging" },
      { name := "D", value := "1", line := 3, file := ".env.staging" },
      { name := "N", value := "x", line := 4, file := ".env.staging" },
      { name := "X", value := "1", line := 5, file := ".env.staging" }], none⟩,
    ⟨"production", [".env.production"],
      [{ name := "A", value := "2", line := 1, file := ".env.production" },
        { name := "N", value := "1", line := 2, file := ".env.production" }], none⟩]

def stageRules : Config where
  ruleEntries := [("N", .read { constraints := { type := some .number } }), ("Z", .read { required := true })]

theorem names_stages : names stages stageRules ["X*"] = ["A", "B", "D", "N", "Z"] := by
  rw [names, sortStrings_of_increasing (by decide)]
  decide

theorem rows_stages : ∃ found, rows stages stageRules ["X*"] = .ok found ∧
    found.map (fun row => (row.name, row.status)) =
      [("A", .info), ("B", .ok), ("D", .warning), ("N", .error), ("Z", .error)] := by
  have ran : ((rows stages stageRules ["X*"]).toOption.map fun found => found.map fun row => (row.name, row.status)) =
      some [("A", .info), ("B", .ok), ("D", .warning), ("N", .error), ("Z", .error)] := by
    rw [rows, names_stages]
    decide +kernel
  obtain ⟨found, given, statuses⟩ := Option.map_eq_some_iff.mp ran
  exact ⟨found, Outcome.eq_ok_of_toOption given, statuses⟩

theorem grid_of_stages : ∃ found, rows stages stageRules ["X*"] = .ok found ∧
    IsGrid stages stageRules ["X*"] found ∧
    (summary found ["staging", "production"]).AddsUp found ["staging", "production"] ∧
    found.map (fun row => (row.name, row.status)) =
      [("A", .info), ("B", .ok), ("D", .warning), ("N", .error), ("Z", .error)] := by
  obtain ⟨found, made, statuses⟩ := rows_stages
  obtain ⟨grid, sums⟩ := (grid_of_distinct (by decide)).2 found made
  exact ⟨found, made, grid, sums, statuses⟩

end Matrix
end EnvAudit
