import EnvAudit.Proofs.Matrix.Grid

/-! The errors of a row. A row tells at most once that its variable is missing, with all environments that lack it and
must not, and once for every environment where its value is wrong what is wrong with it. Unless gaps are errors as well,
these are what makes a row an error. -/
namespace EnvAudit.Matrix

def isDemanded (rule : Option Rule) (environment : String) : Bool :=
  match rule with
  | none => false
  | some rule => ((rule.override? environment).bind (·.required)).getD rule.required

def environmentsLacking (environments : List Environment) (config : Config) (name : String) : List String :=
  (environments.filter fun environment =>
    !Declaration.declares environment.declarations name && isDemanded (config.rule? name) environment.name).map (·.name)

def errorIn? (config : Config) (name : String) (environment : Environment) : Option String := do
  let declaration ← Declaration.find? environment.declarations name
  let rule := config.rule? name
  (valueError? declaration.value rule (rule.bind (·.override? environment.name)) environment.name).toOption.join

/-- Whether the findings of a row are exact about what is missing and what is invalid. -/
structure Row.TellsErrors (row : Row) (environments : List Environment) (config : Config) : Prop where
  missing : (row.findings.filter (·.kind == .missing)).map (·.environments) =
    if environmentsLacking environments config row.name = [] then []
    else [environmentsLacking environments config row.name]
  invalid : (row.findings.filter (·.kind == .invalid)).map (fun finding => (finding.environments, finding.message)) =
    environments.filterMap fun environment =>
      (errorIn? config row.name environment).map fun error => ([environment.name], error)
  status : consistencyOf config ≠ .error →
    (row.status = .error ↔ ∃ finding ∈ row.findings, finding.kind = .missing ∨ finding.kind = .invalid)

section Verdicts
variable {rule : Option Rule} {change : Option Override} {name value environment error : String}

theorem isRequired_eq : isRequired rule (rule.bind (·.override? environment)) = isDemanded rule environment := by
  unfold isRequired isDemanded
  cases rule with
  | none => rfl
  | some rule =>
    simp only [Option.bind_some, Option.map_some, Option.getD_some]
    cases (rule.override? environment).bind (·.required) <;> rfl

theorem enforcedError?_ne_empty (enforced : enforcedError? value environment change = some error) : error ≠ "" := by
  unfold enforcedError? at enforced
  split at enforced
  · cases enforced
  · next own =>
    split at enforced
    · cases enforced
    · next exact =>
      split at enforced
      · cases enforced
      · cases enforced
        cases told : own.message.filter (· != "") with
        | none => simp
        | some message =>
          have filled := (Option.filter_eq_some_iff.mp told).2
          simpa using filled

theorem violationText_ne_empty {violation : Violation} (told : violationText violation = .ok error) : error ≠ "" := by
  cases violation with
  | type type => cases type <;> cases told <;> decide
  | pattern pattern =>
    cases told
    decide
  | enum allowed =>
    cases told
    simp

/-- What is said to be wrong with a value is never an empty text, for which a general one would stand. -/
theorem valueError?_ne_empty (judged : valueError? value rule change environment = .ok (some error)) : error ≠ "" := by
  unfold valueError? at judged
  split at judged
  · next enforced =>
    cases judged
    exact enforcedError?_ne_empty enforced
  · obtain ⟨violation?, _, rest⟩ := Outcome.bind_eq_ok.mp judged
    cases violation? with
    | none => cases rest
    | some violation =>
      obtain ⟨text, told, same⟩ := Outcome.bind_eq_ok.mp rest
      cases same
      exact violationText_ne_empty told

end Verdicts

section Cells
variable {config : Config} {name : String} {environment : Environment} {own : Cell}

theorem isLacking_of_cell
    (judged : cell (Declaration.find? environment.declarations name) (config.rule? name)
      ((config.rule? name).bind (·.override? environment.name)) environment.name = .ok own) :
    own.isLacking = (!Declaration.declares environment.declarations name &&
      isDemanded (config.rule? name) environment.name) := by
  rw [Declaration.declares_eq]
  cases found : Declaration.find? environment.declarations name with
  | none =>
    rw [found] at judged
    cases judged
    rw [absentCell, isRequired_eq]
    cases isDemanded (config.rule? name) environment.name <;> rfl
  | some declaration =>
    rw [found] at judged
    obtain ⟨error?, _, same⟩ := Outcome.bind_eq_ok.mp judged
    cases same
    cases error? with
    | some error => rfl
    | none =>
      simp only [declaredCell, Cell.isLacking]
      cases declaration.value == "" <;> rfl

theorem errorIn?_of_cell
    (judged : cell (Declaration.find? environment.declarations name) (config.rule? name)
      ((config.rule? name).bind (·.override? environment.name)) environment.name = .ok own) (otherwise : String) :
    errorIn? config name environment =
      if own.status == .invalid then some ((own.error.filter (· != "")).getD otherwise) else none := by
  unfold errorIn?
  cases found : Declaration.find? environment.declarations name with
  | none =>
    rw [found] at judged
    cases judged
    unfold absentCell
    split <;> rfl
  | some declaration =>
    rw [found] at judged
    obtain ⟨error?, told, same⟩ := Outcome.bind_eq_ok.mp judged
    cases same
    simp only [Option.bind_eq_bind, Option.bind_some, told, declaredCell]
    cases error? with
    | none =>
      have valid : (if declaration.value = "" then CellStatus.empty else .set) ≠ .invalid := by split <;> simp
      simp [valid, Except.toOption]
    | some error =>
      have filled : (some error).filter (· != "") = some error := by simp [valueError?_ne_empty told]
      rw [filled]
      rfl

end Cells

section Findings
variable {config : Config} {rule : Option Rule} {name : String} {cells : List (String × Cell)}
  {environments : List String}

theorem filter_kind {kind other : FindingKind} {found : List Finding}
    (kinds : ∀ finding ∈ found, finding.kind = other) :
    found.filter (·.kind == kind) = if other = kind then found else [] := by
  split
  · next same =>
    refine List.filter_eq_self.mpr fun finding member => ?_
    simp [kinds finding member, same]
  · next differs =>
    refine List.filter_eq_nil_iff.mpr fun finding member => ?_
    simp [kinds finding member, differs]

theorem filter_findings (kind : FindingKind) :
    (findings config rule name cells environments).filter (·.kind == kind) =
      match kind with
      | .missing => missingFindings name cells environments
      | .invalid => invalidFindings name cells environments
      | .inconsistent => gapFindings (consistencyOf config) name cells environments
      | .differing => differingFindings rule name cells environments := by
  have missing : ∀ finding ∈ missingFindings name cells environments, finding.kind = .missing := by
    simp only [missingFindings, List.mem_ite_nil_left, List.mem_singleton]
    rintro _ ⟨_, rfl⟩
    rfl
  have invalid : ∀ finding ∈ invalidFindings name cells environments, finding.kind = .invalid := by
    simp only [invalidFindings, List.mem_map]
    rintro _ ⟨_, _, rfl⟩
    rfl
  have gap : ∀ finding ∈ gapFindings (consistencyOf config) name cells environments, finding.kind = .inconsistent := by
    simp only [gapFindings, List.mem_ite_nil_left, List.mem_singleton]
    rintro _ ⟨_, rfl⟩
    rfl
  have differing : ∀ finding ∈ differingFindings rule name cells environments, finding.kind = .differing := by
    simp only [differingFindings, List.mem_ite_nil_left, List.mem_singleton]
    rintro _ ⟨_, rfl⟩
    rfl
  rw [findings, List.filter_append, List.filter_append, List.filter_append, filter_kind missing, filter_kind invalid,
    filter_kind gap, filter_kind differing]
  cases kind <;> simp

theorem Tells.severity_eq_error_iff {kind : FindingKind} {severity : Severity} {concerned : List String}
    (lenient : consistencyOf config ≠ .error)
    (tells : Tells config rule name cells environments kind severity concerned) :
    severity = .error ↔ kind = .missing ∨ kind = .invalid := by
  cases tells with
  | missing => simp
  | invalid => simp
  | inconsistent => simp [gapSeverity, lenient]
  | differing => simp

theorem worst_findings_eq_error_iff (lenient : consistencyOf config ≠ .error) :
    worst (findings config rule name cells environments) = .error ↔
      ∃ finding ∈ findings config rule name cells environments, finding.kind = .missing ∨ finding.kind = .invalid := by
  rw [worst_eq_error_iff]
  apply exists_congr
  intro finding
  apply and_congr_right
  intro member
  exact (tells_iff.mpr ⟨finding, member, rfl, rfl, rfl⟩).severity_eq_error_iff lenient

end Findings

section Rows
variable {config : Config} {name : String} {environments : List Environment} {exclude : List String}

theorem map_filter_eq_filterMap {α β : Type} {keep : α → Bool} {f : α → β} {choose : α → Option β} {items : List α}
    (same : ∀ item ∈ items, choose item = if keep item then some (f item) else none) :
    (items.filter keep).map f = items.filterMap choose := by
  induction items with
  | nil => rfl
  | cons item rest ih =>
    obtain ⟨head, tail⟩ := List.forall_mem_cons.mp same
    cases kept : keep item with
    | true => simp [kept, head, ih tail]
    | false => simp [kept, head, ih tail]

theorem cellOf_of_mem (distinct : (environments.map (·.name)).Nodup) {cells : List (String × Cell)}
    (ok : cellsOf (config.rule? name) name environments [] = .ok cells) {environment : Environment}
    (member : environment ∈ environments) :
    cell (Declaration.find? environment.declarations name) (config.rule? name)
      ((config.rule? name).bind (·.override? environment.name)) environment.name =
        .ok (cellOf cells environment.name) := by
  obtain ⟨own, judged, found⟩ := lookup_cellsOf_of_mem distinct ok member
  rw [judged, cellOf, found, Option.getD_some]

theorem tellsErrors_of_rowOf (distinct : (environments.map (·.name)).Nodup) {row : Row}
    (ok : rowOf config environments name = .ok row) : row.TellsErrors environments config := by
  obtain ⟨cells, made, rfl⟩ := rowOf_eq_ok.mp ok
  have judged {environment : Environment} (member : environment ∈ environments) := cellOf_of_mem distinct made member
  have lacking : having Cell.isLacking cells (environments.map (·.name)) =
      environmentsLacking environments config name := by
    rw [having, List.filter_map, environmentsLacking]
    congr 1
    apply List.filter_congr
    intro environment member
    exact isLacking_of_cell (judged member)
  constructor
  case missing =>
    rw [filter_findings]
    simp only [missingFindings, lacking, List.isEmpty_iff]
    split <;> rfl
  case invalid =>
    rw [filter_findings]
    simp only [invalidFindings, having, List.filter_map, List.map_map]
    apply map_filter_eq_filterMap
    intro environment member
    rw [errorIn?_of_cell (judged member) ("Invalid value in " ++ environment.name), Option.map_if]
    rfl
  case status => exact worst_findings_eq_error_iff

/-- A comparison of environments with different names gives rows whose errors are exact, one for every compared
variable, exactly when each value that takes part can be judged. -/
theorem errors_exact_iff (distinct : (environments.map (·.name)).Nodup) :
    (∃ found, rows environments config exclude = .ok found ∧ found.map (·.name) = names environments config exclude ∧
      ∀ row ∈ found, row.TellsErrors environments config) ↔ IsComparable environments config exclude := by
  rw [← rows_returns]
  constructor
  · rintro ⟨found, made, _⟩
    exact ⟨found, made⟩
  · rintro ⟨found, made⟩
    refine ⟨found, made, names_of_rows made, fun row member => ?_⟩
    exact tellsErrors_of_rowOf distinct (rowOf_of_mem made member).2

theorem errors_exact_stages : (stages.map (·.name)).Nodup ∧ ∃ found, rows stages stageRules ["X*"] = .ok found ∧
    found.map (·.name) = names stages stageRules ["X*"] ∧ ∀ row ∈ found, row.TellsErrors stages stageRules := by
  have distinct : (stages.map (·.name)).Nodup := by decide
  obtain ⟨found, made, _⟩ := rows_stages
  exact ⟨distinct, (errors_exact_iff distinct).mpr (rows_returns.mp ⟨found, made⟩)⟩

end Rows
end EnvAudit.Matrix
