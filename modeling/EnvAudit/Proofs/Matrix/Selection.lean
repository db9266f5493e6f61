import EnvAudit.Proofs.Matrix.Grid

/-! A comparison of fewer environments tells nothing new. Its cells are those of the wider comparison, and what it finds
to be missing, invalid or inconsistent the wider one finds as well, for at least the same environments. The one way to
lose such a finding is that the wider comparison does not return. -/
namespace EnvAudit.Matrix

section Findings
variable {config : Config} {rule : Option Rule} {name : String} {cells wide : List (String × Cell)}
  {chosen all : List String}

theorem having_subset (fewer : chosen ⊆ all)
    (alike : ∀ environment ∈ chosen, cellOf wide environment = cellOf cells environment) (property : Cell → Bool) :
    having property cells chosen ⊆ having property wide all := by
  intro environment member
  obtain ⟨listed, holds⟩ := List.mem_filter.mp member
  exact List.mem_filter.mpr ⟨fewer listed, by rw [alike environment listed, holds]⟩

/-- What is told of some environments is told of more, except that their values differ. -/
theorem Tells.widen {kind : FindingKind} {severity : Severity} {concerned : List String}
    (tells : Tells config rule name cells chosen kind severity concerned) (other : kind ≠ .differing)
    (fewer : chosen ⊆ all) (alike : ∀ environment ∈ chosen, cellOf wide environment = cellOf cells environment) :
    ∃ wider, Tells config rule name wide all kind severity wider ∧ concerned ⊆ wider := by
  have grows := having_subset fewer alike
  have filled (property : Cell → Bool) (some : having property cells chosen ≠ []) : having property wide all ≠ [] := by
    intro none
    have within := grows property
    rw [none] at within
    exact some (List.subset_nil.mp within)
  cases tells with
  | missing lacking => exact ⟨_, .missing (filled _ lacking), grows _⟩
  | invalid invalid => exact ⟨_, .invalid (grows _ invalid), List.Subset.refl _⟩
  | inconsistent present gaps demanded =>
    exact ⟨_, .inconsistent (filled _ present) (filled _ gaps) demanded, grows _⟩
  | differing => exact absurd rfl other

theorem Tells.severity_of_differing {severity : Severity} {concerned : List String}
    (tells : Tells config rule name cells chosen .differing severity concerned) : severity = .info := by
  cases tells
  rfl

end Findings

/-- Whether a row covers another one that was made for fewer environments. -/
structure Row.Covers (wide row : Row) (chosen : List Environment) : Prop where
  name : wide.name = row.name
  cells : ∀ environment ∈ chosen, ∃ cell, wide.cells.lookup environment.name = some cell ∧
    row.cells.lookup environment.name = some cell
  findings : ∀ finding ∈ row.findings, finding.kind ≠ .differing →
    ∃ other ∈ wide.findings, other.kind = finding.kind ∧ other.severity = finding.severity ∧
      finding.environments ⊆ other.environments
  error : row.status = .error → wide.status = .error
  warning : row.status = .warning → wide.status = .warning ∨ wide.status = .error

section Rows
variable {environments chosen all : List Environment} {config : Config} {exclude : List String} {name : String}

theorem names_subset (fewer : chosen ⊆ all) : names chosen config exclude ⊆ names all config exclude := by
  intro name compares
  obtain ⟨here, taken⟩ := mem_names.mp compares
  refine mem_names.mpr ⟨here.imp_left ?_, taken⟩
  rintro ⟨environment, member, listed⟩
  exact ⟨environment, fewer member, listed⟩

theorem IsComparable.of_subset (fewer : chosen ⊆ all) (comparable : IsComparable all config exclude) :
    IsComparable chosen config exclude :=
  fun environment member => comparable environment (fewer member)

theorem kind_ne_differing {row : Row} (made : rowOf config environments name = .ok row) {finding : Finding}
    (member : finding ∈ row.findings) (grave : finding.severity ≠ .info) : finding.kind ≠ .differing := by
  obtain ⟨cells, _, rfl⟩ := rowOf_eq_ok.mp made
  have tells : Tells config (config.rule? name) name cells (environments.map (·.name)) finding.kind finding.severity
      finding.environments := tells_iff.mpr ⟨finding, member, rfl, rfl, rfl⟩
  intro differing
  rw [differing] at tells
  exact grave tells.severity_of_differing

theorem covers_of_subset (distinct : (all.map (·.name)).Nodup) (fewer : chosen.Sublist all) {wide row : Row}
    (made : rowOf config chosen name = .ok row) (made' : rowOf config all name = .ok wide) :
    wide.Covers row chosen := by
  obtain ⟨cells, ok, same⟩ := rowOf_eq_ok.mp made
  obtain ⟨cells', ok', same'⟩ := rowOf_eq_ok.mp made'
  have distinct' : (chosen.map (·.name)).Nodup := distinct.sublist (fewer.map _)
  have shared (environment : Environment) (member : environment ∈ chosen) :
      ∃ cell, cells'.lookup environment.name = some cell ∧ cells.lookup environment.name = some cell := by
    obtain ⟨own, judged, held⟩ := lookup_cellsOf_of_mem distinct' ok member
    obtain ⟨own', judged', held'⟩ := lookup_cellsOf_of_mem distinct ok' (fewer.subset member)
    rw [judged] at judged'
    cases judged'
    exact ⟨own, held', held⟩
  have alike (environment : String) (member : environment ∈ chosen.map (·.name)) :
      cellOf cells' environment = cellOf cells environment := by
    obtain ⟨environment, listed, rfl⟩ := List.mem_map.mp member
    obtain ⟨cell, held', held⟩ := shared environment listed
    rw [cellOf, cellOf, held, held']
  have kept (finding : Finding) (member : finding ∈ row.findings) (other : finding.kind ≠ .differing) :
      ∃ wider ∈ wide.findings, wider.kind = finding.kind ∧ wider.severity = finding.severity ∧
        finding.environments ⊆ wider.environments := by
    rw [same] at member
    have tells : Tells config (config.rule? name) name cells (chosen.map (·.name)) finding.kind finding.severity
        finding.environments := tells_iff.mpr ⟨finding, member, rfl, rfl, rfl⟩
    obtain ⟨concerned, tells', grows⟩ := tells.widen other (fewer.map _).subset alike
    obtain ⟨wider, found, kind, severity, rfl⟩ := tells_iff.mp tells'
    exact ⟨wider, same' ▸ found, kind, severity, grows⟩
  have graver (severity : Severity) (grave : severity ≠ .info)
      (found : ∃ finding ∈ row.findings, finding.severity = severity) :
      ∃ finding ∈ wide.findings, finding.severity = severity := by
    obtain ⟨finding, member, rfl⟩ := found
    obtain ⟨wider, member', _, severity, _⟩ := kept finding member (kind_ne_differing made member grave)
    exact ⟨wider, member', severity⟩
  have status : row.status = worst row.findings := same ▸ rfl
  have status' : wide.status = worst wide.findings := same' ▸ rfl
  refine ⟨(rowOf_name made').trans (rowOf_name made).symm, ?_, kept, ?_, ?_⟩
  · rw [same, same']
    exact shared
  · rw [status, status', worst_eq_error_iff, worst_eq_error_iff]
    exact graver .error (by simp)
  · rw [status, status', worst_eq_warning_iff, worst_eq_warning_iff, worst_eq_error_iff]
    rintro ⟨_, warning⟩
    have warning' := graver .warning (by simp) warning
    by_cases error : ∃ finding ∈ wide.findings, finding.severity = .error
    · exact .inr error
    · exact .inl ⟨by simpa using error, warning'⟩

/-- A comparison of some of the environments and the one of all of them return, and each row of the first is covered by
one of the second, exactly when each value that takes part in the second can be judged. -/
theorem selection_covered_iff (distinct : (all.map (·.name)).Nodup) (fewer : chosen.Sublist all) :
    (∃ part whole, rows chosen config exclude = .ok part ∧ rows all config exclude = .ok whole ∧
      ∀ row ∈ part, ∃ wide ∈ whole, wide.Covers row chosen) ↔ IsComparable all config exclude := by
  constructor
  · rintro ⟨_, whole, _, made, _⟩
    exact rows_returns.mp ⟨whole, made⟩
  · intro comparable
    obtain ⟨part, made⟩ := rows_returns.mpr (comparable.of_subset fewer.subset)
    obtain ⟨whole, made'⟩ := rows_returns.mpr comparable
    refine ⟨part, whole, made, made', fun row member => ?_⟩
    obtain ⟨compares, ok⟩ := rowOf_of_mem made member
    obtain ⟨wide, member', ok'⟩ := row_of_mem_names made' (names_subset fewer.subset compares)
    exact ⟨wide, member', covers_of_subset distinct fewer ok ok'⟩

end Rows

theorem selection_covered_stages : ∃ part whole, rows (stages.take 1) stageRules ["X*"] = .ok part ∧
    rows stages stageRules ["X*"] = .ok whole ∧
    ∀ row ∈ part, ∃ wide ∈ whole, wide.Covers row (stages.take 1) := by
  obtain ⟨found, made, _⟩ := rows_stages
  exact (selection_covered_iff (by decide) (List.take_sublist 1 stages)).mpr (rows_returns.mp ⟨found, made⟩)

def plainAndJson (text : String) : List Environment :=
  [⟨"staging", [".env.staging"], [], none⟩,
    ⟨"production", [".env.production"], [{ name := "W", value := text, line := 1, file := ".env.production" }], none⟩]

def plainAndJsonRules : Config where
  ruleEntries := [("V", .read { required := true }), ("W", .read { constraints := { type := some .json } })]

/-- A value that nests too deeply in an environment takes from the comparison what is found about another one. -/
theorem narrower_only_of_deep_value {count : Nat} (deep : Json.nestingLimit < count) :
    Returns (rows ((plainAndJson (String.ofList (List.replicate count '['))).take 1) plainAndJsonRules []) ∧
    ¬ Returns (rows (plainAndJson (String.ofList (List.replicate count '['))) plainAndJsonRules []) := by
  constructor
  · rw [rows_returns]
    intro environment member name declaration here
    cases List.mem_singleton.mp member
    cases here
  · have ruled : plainAndJsonRules.rule? "W" = some { constraints := { type := some .json } } := rfl
    apply not_returns_of_deep_value (List.mem_cons_of_mem _ List.mem_cons_self) rfl (by simp) ruled rfl rfl
    rw [String.toList_ofList]
    simpa using Json.isTooDeep_brackets deep []

end EnvAudit.Matrix
