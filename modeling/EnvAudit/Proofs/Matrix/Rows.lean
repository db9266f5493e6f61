import EnvAudit.Matrix.Row
import EnvAudit.Proofs.Audit.Completion
import EnvAudit.Proofs.Text.Basic

/-! The rows of a comparison and their cells: which names have a row, which environment has which cell, and when there
are rows at all. A comparison returns exactly when every value that takes part can be judged. -/
namespace EnvAudit

theorem Declaration.declares_eq (declarations : List Declaration) (name : String) :
    declares declarations name = (find? declarations name).isSome := by
  rw [Bool.eq_iff_iff, declares, names, find?, List.contains_iff_mem, List.find?_isSome]
  simp

namespace Matrix

/-- Whether a value can be judged in an environment. Where it has to be another exact text nothing more is asked. -/
def IsJudgeable (rule : Option Rule) (environment value : String) : Prop :=
  enforcedError? value environment (rule.bind (·.override? environment)) = none →
    (constraintsFor rule (rule.bind (·.override? environment))).IsCheckable value

theorem valueError?_returns {rule : Option Rule} {environment value : String} :
    Returns (valueError? value rule (rule.bind (·.override? environment)) environment) ↔
      IsJudgeable rule environment value := by
  rw [valueError?, IsJudgeable]
  cases enforcedError? value environment (rule.bind (·.override? environment)) with
  | some error => simp
  | none =>
    simp only [forall_const]
    refine (Outcome.returns_bind_iff ?_).trans Constraints.violation?_returns
    intro violation violated
    cases violation with
    | none => exact Outcome.returns_pure _
    | some violation =>
      refine (Outcome.returns_bind_iff fun _ _ => Outcome.returns_pure _).mpr ?_
      cases violation with
      | type type =>
        obtain ⟨expectation, expected⟩ := Constraints.expectation?_of_violation? violated
        rw [violationText, expected]
        exact Outcome.returns_ok _
      | pattern pattern => exact Outcome.returns_ok _
      | enum allowed => exact Outcome.returns_ok _

section Cells
variable {config : Config} {rule : Option Rule} {name : String} {environment : Environment}
  {environments before after : List Environment} {done cells : List (String × Cell)}

theorem cell_returns : Returns (cell (Declaration.find? environment.declarations name) rule
      (rule.bind (·.override? environment.name)) environment.name) ↔
    ∀ declaration, Declaration.find? environment.declarations name = some declaration →
      IsJudgeable rule environment.name declaration.value := by
  cases Declaration.find? environment.declarations name with
  | none => exact iff_of_true (Outcome.returns_ok _) (by rintro _ ⟨⟩)
  | some declaration =>
    simp only [Option.some.injEq, forall_eq']
    exact (Outcome.returns_bind_iff fun _ _ => Outcome.returns_pure _).trans valueError?_returns

theorem cellsOf_returns : Returns (cellsOf rule name environments done) ↔
    ∀ environment ∈ environments, ∀ declaration,
      Declaration.find? environment.declarations name = some declaration →
        IsJudgeable rule environment.name declaration.value := by
  induction environments generalizing done with
  | nil => simp [cellsOf]
  | cons first rest ih =>
    rw [cellsOf, Outcome.returns_bind, List.forall_mem_cons, ← cell_returns]
    constructor
    · rintro ⟨next, made, others⟩
      exact ⟨⟨next, made⟩, ih.mp others⟩
    · rintro ⟨⟨next, made⟩, others⟩
      exact ⟨next, made, ih.mpr others⟩

theorem keys_cellsOf (distinct : (done.map (·.1) ++ environments.map (·.name)).Nodup)
    (ok : cellsOf rule name environments done = .ok cells) :
    cells.map (·.1) = done.map (·.1) ++ environments.map (·.name) := by
  induction environments generalizing done with
  | nil =>
    cases ok
    simp
  | cons first rest ih =>
    obtain ⟨next, _, ok⟩ := Outcome.bind_eq_ok.mp ok
    have new : first.name ∉ done.map (·.1) := by
      intro known
      rw [List.nodup_append] at distinct
      exact distinct.2.2 _ known _ (by simp) rfl
    rw [Json.setField_of_new new] at ok
    have keys := ih (by simpa using distinct) ok
    simpa using keys

theorem lookup_cellsOf_of_ne {own : String} (ok : cellsOf rule name after done = .ok cells)
    (differ : ∀ later ∈ after, later.name ≠ own) : cells.lookup own = done.lookup own := by
  induction after generalizing done with
  | nil =>
    cases ok
    rfl
  | cons next rest ih =>
    obtain ⟨differs, others⟩ := List.forall_mem_cons.mp differ
    obtain ⟨_, _, ok⟩ := Outcome.bind_eq_ok.mp ok
    rw [ih ok others, Json.lookup_setField_of_ne differs.symm]

/-- Of the environments with one name the last one has the cell. -/
theorem lookup_cellsOf (ok : cellsOf rule name (before ++ environment :: after) done = .ok cells)
    (last : ∀ later ∈ after, later.name ≠ environment.name) :
    ∃ own, cell (Declaration.find? environment.declarations name) rule
        (rule.bind (·.override? environment.name)) environment.name = .ok own ∧
      cells.lookup environment.name = some own := by
  induction before generalizing done with
  | nil =>
    obtain ⟨own, judged, ok⟩ := Outcome.bind_eq_ok.mp ok
    exact ⟨own, judged, (lookup_cellsOf_of_ne ok last).trans (Json.lookup_setField_same _ _ _)⟩
  | cons next rest ih =>
    obtain ⟨_, _, ok⟩ := Outcome.bind_eq_ok.mp ok
    exact ih ok

theorem lookup_cellsOf_of_mem (distinct : (environments.map (·.name)).Nodup)
    (ok : cellsOf rule name environments done = .ok cells) (member : environment ∈ environments) :
    ∃ own, cell (Declaration.find? environment.declarations name) rule
        (rule.bind (·.override? environment.name)) environment.name = .ok own ∧
      cells.lookup environment.name = some own := by
  obtain ⟨before, after, rfl⟩ := List.append_of_mem member
  apply lookup_cellsOf ok
  intro later listed same
  rw [List.map_append, List.map_cons, List.nodup_append, List.nodup_cons] at distinct
  exact distinct.2.1.1 (List.mem_map.mpr ⟨later, listed, same⟩)

theorem rowOf_eq_ok {row : Row} :
    rowOf config environments name = .ok row ↔
      ∃ cells, cellsOf (config.rule? name) name environments [] = .ok cells ∧
        row = ⟨name, cells, worst (findings config (config.rule? name) name cells (environments.map (·.name))),
          findings config (config.rule? name) name cells (environments.map (·.name))⟩ := by
  rw [rowOf, Outcome.bind_eq_ok]
  constructor
  · rintro ⟨cells, ok, same⟩
    cases same
    exact ⟨cells, ok, rfl⟩
  · rintro ⟨cells, ok, rfl⟩
    exact ⟨cells, ok, rfl⟩

end Cells

section Names
variable {environments : List Environment} {config : Config} {exclude : List String} {found : List Row} {name : String}

theorem mem_names : name ∈ names environments config exclude ↔
    ((∃ environment ∈ environments, name ∈ Declaration.names environment.declarations) ∨
      name ∈ config.ruleEntries.map (·.1)) ∧ ∀ glob ∈ exclude, NameGlob.covers glob name = false := by
  rw [names, List.mem_filter, mem_sortStrings, Text.mem_distinct, List.mem_append, List.mem_flatMap]
  simp

theorem names_increasing : (names environments config exclude).Pairwise (· < ·) :=
  (sortStrings_increasing (Text.nodup_distinct _)).filter _

theorem row_of_mem_names (made : rows environments config exclude = .ok found)
    (compares : name ∈ names environments config exclude) :
    ∃ row ∈ found, rowOf config environments name = .ok row := by
  obtain ⟨row, ok⟩ := Outcome.mapM_returns.mp ⟨found, made⟩ name compares
  exact ⟨row, (Outcome.mem_of_mapM made).mpr ⟨name, compares, ok⟩, ok⟩

theorem rowOf_name {row : Row} (ok : rowOf config environments name = .ok row) : row.name = name := by
  obtain ⟨_, _, rfl⟩ := rowOf_eq_ok.mp ok
  rfl

theorem rowOf_of_mem (made : rows environments config exclude = .ok found) {row : Row} (member : row ∈ found) :
    row.name ∈ names environments config exclude ∧ rowOf config environments row.name = .ok row := by
  obtain ⟨own, compares, ok⟩ := (Outcome.mem_of_mapM made).mp member
  rw [rowOf_name ok]
  exact ⟨compares, ok⟩

theorem names_of_rows (made : rows environments config exclude = .ok found) :
    found.map (·.name) = names environments config exclude := by
  have related := Outcome.mapM_eq_ok.mp made
  clear made
  generalize names environments config exclude = compared at related
  induction related with
  | nil => rfl
  | cons head _ ih => rw [List.map_cons, rowOf_name head, ih]

end Names

/-- Whether every value that takes part in a comparison can be judged. -/
def IsComparable (environments : List Environment) (config : Config) (exclude : List String) : Prop :=
  ∀ environment ∈ environments, ∀ name declaration,
    Declaration.find? environment.declarations name = some declaration →
      (∀ glob ∈ exclude, NameGlob.covers glob name = false) →
        IsJudgeable (config.rule? name) environment.name declaration.value

theorem rows_returns {environments : List Environment} {config : Config} {exclude : List String} :
    Returns (rows environments config exclude) ↔ IsComparable environments config exclude := by
  have row (name : String) : Returns (rowOf config environments name) ↔
      ∀ environment ∈ environments, ∀ declaration,
        Declaration.find? environment.declarations name = some declaration →
          IsJudgeable (config.rule? name) environment.name declaration.value :=
    (Outcome.returns_bind_iff fun _ _ => Outcome.returns_pure _).trans cellsOf_returns
  rw [rows, Outcome.mapM_returns]
  constructor
  · intro judged environment member name declaration here taken
    have listed : Declaration.declares environment.declarations name = true := by
      rw [Declaration.declares_eq, here]
      rfl
    have compares : name ∈ names environments config exclude :=
      mem_names.mpr ⟨.inl ⟨environment, member, List.contains_iff_mem.mp listed⟩, taken⟩
    exact (row name).mp (judged name compares) environment member declaration here
  · intro comparable name compares
    refine (row name).mpr fun environment member declaration here => ?_
    exact comparable environment member name declaration here (mem_names.mp compares).2

end Matrix
end EnvAudit
