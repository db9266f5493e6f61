import EnvAudit.Matrix.Survey
import EnvAudit.Proofs.Matrix.Agreement
import EnvAudit.Report.Grid

/-! What a comparison of environments tells of secrets. Two lists of environments that differ only in values that are
secret, set and judged alike give the same findings, the same numbers, the same record and the same printed grid: the
cells of their rows differ in nothing but those values, and nothing that is told of a row reads a secret value. -/
namespace EnvAudit.Matrix
open Logged Outcome

structure Cell.Alike (first second : Cell) : Prop where
  status : first.status = second.status
  valid : first.valid = second.valid
  file : first.file = second.file
  line : first.line = second.line
  error : first.error = second.error
  isSecret : first.isSecret = second.isSecret
  value : first.isSecret = false → first.value = second.value

theorem Cell.Alike.refl (cell : Cell) : cell.Alike cell := ⟨rfl, rfl, rfl, rfl, rfl, rfl, fun _ => rfl⟩

def CellsAlike (cells cells' : List (String × Cell)) : Prop :=
  List.Forall₂ (fun entry entry' => entry.1 = entry'.1 ∧ entry.2.Alike entry'.2) cells cells'

section Findings
variable {cells cells' : List (String × Cell)} {property : Cell → Bool}

theorem cellOf_alike (alike : CellsAlike cells cells') (environment : String) :
    (cellOf cells environment).Alike (cellOf cells' environment) := by
  have looked : (cells.lookup environment = none ∧ cells'.lookup environment = none) ∨
      ∃ cell cell', cells.lookup environment = some cell ∧ cells'.lookup environment = some cell' ∧
        cell.Alike cell' := by
    induction alike with
    | nil => exact .inl ⟨rfl, rfl⟩
    | @cons entry entry' _ _ head _ ih =>
      obtain ⟨named, here⟩ := head
      rw [List.lookup_cons, List.lookup_cons, ← named]
      cases environment == entry.1 with
      | true => exact .inr ⟨_, _, rfl, rfl, here⟩
      | false => exact ih
  unfold cellOf
  rcases looked with ⟨absent, absent'⟩ | ⟨cell, cell', found, found', alike⟩
  · rw [absent, absent']
    exact .refl _
  · rw [found, found']
    exact alike

theorem having_alike (blind : ∀ cell cell' : Cell, cell.Alike cell' → property cell = property cell')
    (alike : CellsAlike cells cells') (environments : List String) :
    having property cells environments = having property cells' environments := by
  apply List.filter_congr
  intro environment _
  exact blind _ _ (cellOf_alike alike environment)

theorem setField_alike {cell cell' : Cell} (here : cell.Alike cell') (alike : CellsAlike cells cells')
    (environment : String) :
    CellsAlike (Json.setField environment cell cells) (Json.setField environment cell' cells') := by
  induction alike with
  | nil => exact .cons ⟨rfl, here⟩ .nil
  | @cons entry entry' rest rest' head tail ih =>
    obtain ⟨name, own⟩ := entry
    obtain ⟨name', own'⟩ := entry'
    obtain ⟨same, owned⟩ := head
    dsimp only at same owned
    subst same
    simp only [Json.setField]
    split
    · exact .cons ⟨rfl, here⟩ tail
    · exact .cons ⟨rfl, owned⟩ ih

theorem isLacking_alike (cell cell' : Cell) (alike : cell.Alike cell') : cell.isLacking = cell'.isLacking := by
  rw [Cell.isLacking, Cell.isLacking, alike.status, alike.valid]

theorem isGap_alike (cell cell' : Cell) (alike : cell.Alike cell') : cell.isGap = cell'.isGap := by
  rw [Cell.isGap, Cell.isGap, alike.status, alike.valid]

theorem status_alike (status : CellStatus) (cell cell' : Cell) (alike : cell.Alike cell') :
    (cell.status == status) = (cell'.status == status) := by
  rw [alike.status]

theorem invalidFindings_alike (alike : CellsAlike cells cells') (name : String) (environments : List String) :
    invalidFindings name cells environments = invalidFindings name cells' environments := by
  have chosen := having_alike (status_alike .invalid) alike environments
  rw [invalidFindings, invalidFindings, chosen]
  apply List.map_congr_left
  intro environment _
  rw [(cellOf_alike alike environment).error]

/-- Values are compared only where none of them is secret, and there the cells have the same ones. -/
theorem differingFindings_alike (alike : CellsAlike cells cells') (rule : Option Rule) (name : String)
    (environments : List String) :
    differingFindings rule name cells environments = differingFindings rule name cells' environments := by
  have secret : (environments.any fun e => (cellOf cells e).isSecret) =
      environments.any fun e => (cellOf cells' e).isSecret := by
    congr 1
    funext environment
    exact (cellOf_alike alike environment).isSecret
  unfold differingFindings
  rw [← secret]
  by_cases hidden : (environments.any fun e => (cellOf cells e).isSecret) = true
  · simp [hidden]
  · have open_cells : ∀ environment ∈ environments, (cellOf cells environment).isSecret = false := by
      simpa using hidden
    have values : distinctValues cells environments = distinctValues cells' environments := by
      have chosen := having_alike (status_alike .set) alike environments
      rw [distinctValues, distinctValues, chosen]
      congr 1
      apply List.map_congr_left
      intro environment member
      have listed : environment ∈ environments := (List.mem_filter.mp member).1
      exact (cellOf_alike alike environment).value (open_cells environment listed)
    rw [values]

theorem findings_alike (alike : CellsAlike cells cells') (config : Config) (rule : Option Rule) (name : String)
    (environments : List String) :
    findings config rule name cells environments = findings config rule name cells' environments := by
  have lacking := having_alike isLacking_alike alike environments
  have gaps := having_alike isGap_alike alike environments
  have present := having_alike (status_alike .set) alike environments
  have missing : missingFindings name cells environments = missingFindings name cells' environments := by
    rw [missingFindings, missingFindings, lacking]
  have gap : gapFindings (consistencyOf config) name cells environments =
      gapFindings (consistencyOf config) name cells' environments := by
    rw [gapFindings, gapFindings, gaps, present]
  rw [findings, findings, missing, gap, invalidFindings_alike alike, differingFindings_alike alike]

end Findings

/-- Two rows of which the same is told, and whose cells differ at most in secret values. -/
structure Row.Alike (first second : Row) : Prop where
  name : first.name = second.name
  cells : CellsAlike first.cells second.cells
  status : first.status = second.status
  findings : first.findings = second.findings

def isConcealed (rule : Option Rule) (declaration : Declaration) : Bool :=
  declaration.isSecret || (rule.map (·.secret)).getD false

structure Interchangeable (rule : Option Rule) (environment : String) (first second : Declaration) : Prop where
  name : first.name = second.name
  file : first.file = second.file
  line : first.line = second.line
  set : first.value ≠ "" ∧ second.value ≠ ""
  secret : isConcealed rule first = true ∧ isConcealed rule second = true
  judged : valueError? first.value rule (rule.bind (·.override? environment)) environment =
    valueError? second.value rule (rule.bind (·.override? environment)) environment

/-- Whether two environments differ at most in the values of secrets. -/
structure Environment.SameButSecrets (config : Config) (first second : Environment) : Prop where
  name : first.name = second.name
  files : first.files = second.files
  description : first.description = second.description
  declarations : List.Forall₂
    (fun own other => own = other ∨ Interchangeable (config.rule? own.name) first.name own other)
    first.declarations second.declarations

section Rows
variable {config : Config} {environments environments' : List Environment}

theorem Environment.SameButSecrets.names {first second : Environment} (alike : first.SameButSecrets config second) :
    Declaration.names first.declarations = Declaration.names second.declarations := by
  have listed := alike.declarations
  unfold Declaration.names
  generalize first.declarations = own, second.declarations = others at listed ⊢
  induction listed with
  | nil => rfl
  | cons head _ ih =>
    rw [List.map_cons, List.map_cons, ih]
    rcases head with rfl | secret
    · rfl
    · rw [secret.name]

theorem Environment.SameButSecrets.find? {first second : Environment} (alike : first.SameButSecrets config second)
    (name : String) :
    (Declaration.find? first.declarations name = none ∧ Declaration.find? second.declarations name = none) ∨
      ∃ own other, Declaration.find? first.declarations name = some own ∧
        Declaration.find? second.declarations name = some other ∧
        (own = other ∨ Interchangeable (config.rule? name) first.name own other) := by
  have listed := alike.declarations
  unfold Declaration.find?
  generalize first.declarations = owns, second.declarations = others at listed ⊢
  induction listed with
  | nil => exact .inl ⟨rfl, rfl⟩
  | @cons own other _ _ head _ ih =>
    have named : own.name = other.name := by
      rcases head with rfl | secret
      · rfl
      · exact secret.name
    rw [List.find?_cons, List.find?_cons, ← named]
    cases same : own.name == name with
    | true => exact .inr ⟨own, other, rfl, rfl, beq_iff_eq.mp same ▸ head⟩
    | false => exact ih

theorem cell_alike {first second : Environment} (alike : first.SameButSecrets config second) (name : String) :
    EndAlike Cell.Alike
      (cell (Declaration.find? first.declarations name) (config.rule? name)
        ((config.rule? name).bind (·.override? first.name)) first.name)
      (cell (Declaration.find? second.declarations name) (config.rule? name)
        ((config.rule? name).bind (·.override? second.name)) second.name) := by
  rw [← alike.name]
  rcases alike.find? name with ⟨absent, absent'⟩ | ⟨own, other, found, found', rfl | secret⟩
  · rw [absent, absent']
    exact Cell.Alike.refl _
  · rw [found, found']
    apply EndAlike.bind
    intro error _
    exact Cell.Alike.refl _
  · rw [found, found', cell, cell, secret.judged]
    apply EndAlike.bind
    intro error _
    have concealed : isConcealed (config.rule? name) own = isConcealed (config.rule? name) other :=
      secret.secret.1.trans secret.secret.2.symm
    have hidden : (declaredCell own (config.rule? name) error).isSecret = true := secret.secret.1
    refine ⟨?_, rfl, congrArg some secret.file, congrArg some secret.line, rfl, concealed, ?_⟩
    · simp [declaredCell, secret.set.1, secret.set.2]
    · intro visible
      rw [hidden] at visible
      cases visible

theorem cellsOf_alike (alike : List.Forall₂ (Environment.SameButSecrets config) environments environments')
    (name : String) {done done' : List (String × Cell)} (begun : CellsAlike done done') :
    EndAlike CellsAlike (cellsOf (config.rule? name) name environments done)
      (cellsOf (config.rule? name) name environments' done') := by
  induction alike generalizing done done' with
  | nil => exact begun
  | @cons first second _ _ head _ ih =>
    apply (cell_alike head name).andThen
    intro cell cell' same
    have further := setField_alike same begun first.name
    rw [head.name] at further ⊢
    exact ih further

theorem names_alike (alike : List.Forall₂ (Environment.SameButSecrets config) environments environments') :
    environments.map (·.name) = environments'.map (·.name) := by
  induction alike with
  | nil => rfl
  | cons head _ ih => rw [List.map_cons, List.map_cons, ih, head.name]

theorem information_alike (alike : List.Forall₂ (Environment.SameButSecrets config) environments environments') :
    environments.map (fun e => (e.name, e.record)) = environments'.map fun e => (e.name, e.record) := by
  induction alike with
  | nil => rfl
  | @cons first second _ _ head _ ih =>
    have records : first.record = second.record := by
      rw [Environment.record, Environment.record, head.description, head.files, head.declarations.length_eq]
    rw [List.map_cons, List.map_cons, ih, head.name, records]

theorem rowOf_alike (alike : List.Forall₂ (Environment.SameButSecrets config) environments environments')
    (name : String) : EndAlike Row.Alike (rowOf config environments name) (rowOf config environments' name) := by
  apply (cellsOf_alike alike name .nil).andThen
  intro cells cells' same
  have found := findings_alike same config (config.rule? name) name (environments.map (·.name))
  rw [← names_alike alike, ← found]
  exact ⟨rfl, same, rfl, rfl⟩

theorem rows_alike (alike : List.Forall₂ (Environment.SameButSecrets config) environments environments')
    (exclude : List String) :
    EndAlike (List.Forall₂ Row.Alike) (rows environments config exclude) (rows environments' config exclude) := by
  have declared : environments.flatMap (fun e => Declaration.names e.declarations) =
      environments'.flatMap fun e => Declaration.names e.declarations := by
    induction alike with
    | nil => rfl
    | cons head _ ih => rw [List.flatMap_cons, List.flatMap_cons, ih, head.names]
  rw [rows, rows, names, names, declared]
  exact EndAlike.mapM (rowOf_alike alike) _

end Rows

section Telling
variable {first second : List Row}

theorem map_alike {β : Type} {told : Row → β} (blind : ∀ row row' : Row, row.Alike row' → told row = told row')
    (alike : List.Forall₂ Row.Alike first second) : first.map told = second.map told := by
  induction alike with
  | nil => rfl
  | cons head _ ih => rw [List.map_cons, List.map_cons, ih, blind _ _ head]

theorem countP_alike {counted : Row → Bool} (blind : ∀ row row' : Row, row.Alike row' → counted row = counted row')
    (alike : List.Forall₂ Row.Alike first second) : first.countP counted = second.countP counted := by
  have counts (rows : List Row) : rows.countP counted = (rows.map counted).countP id := by
    rw [List.countP_map]
    rfl
  rw [counts, counts, map_alike blind alike]

theorem summary_alike (alike : List.Forall₂ Row.Alike first second) (environments : List String) :
    summary first environments = summary second environments := by
  have status (status : Status) : first.countP (·.status == status) = second.countP (·.status == status) := by
    apply countP_alike _ alike
    intro row row' same
    rw [same.status]
  have cells {property : Cell → Bool} (blind : ∀ cell cell' : Cell, cell.Alike cell' → property cell = property cell')
      (environment : String) : countCells property first environment = countCells property second environment := by
    apply countP_alike _ alike
    intro row row' same
    exact blind _ _ (cellOf_alike same.cells environment)
  have tallies (environment : String) :
      tally first environments environment = tally second environments environment := by
    rw [tally, tally, cells, cells, cells (status_alike .invalid)]
    · exact isLacking_alike
    · intro cell cell' same
      rw [same.status]
  rw [summary, summary, alike.length_eq, status, status, status, status]
  congr 2
  funext environment
  rw [tallies]

theorem record_alike {cell cell' : Cell} (alike : cell.Alike cell') : cell.record = cell'.record := by
  have value : (if cell.isSecret then [] else Json.optional "value" .text cell.value) =
      if cell'.isSecret then [] else Json.optional "value" .text cell'.value := by
    rw [← alike.isSecret]
    split
    · rfl
    · next visible => rw [alike.value (by simpa using visible)]
  rw [Cell.record, Cell.record, value, alike.status, alike.valid, alike.file, alike.line, alike.error, alike.isSecret]

def Row.cellsRecord (row : Row) : Json := .object (row.cells.map fun entry => (entry.1, entry.2.record))

theorem cellRecords_alike {cells cells' : List (String × Cell)} (alike : CellsAlike cells cells') :
    cells.map (fun entry => (entry.1, entry.2.record)) = cells'.map fun entry => (entry.1, entry.2.record) := by
  induction alike with
  | nil => rfl
  | cons head _ ih => rw [List.map_cons, List.map_cons, ih, head.1, record_alike head.2]

end Telling

def compared (environments : List Environment) (config : Config) (exclude : List String) (timestamp : String) :
    Except Failure Comparison := do
  let rows ← rows environments config exclude
  return {
    environments := environments.map (·.name)
    information := environments.map fun environment => (environment.name, environment.record)
    rows
    summary := summary rows (environments.map (·.name))
    timestamp }

theorem names_of_readEnvironments {disk : Disk} {root : Path} {definitions : List Definition}
    {environments : List Environment} (gives : Gives (definitions.mapM (readEnvironment disk root)) environments) :
    environments.map (·.name) = definitions.map (·.name) := by
  induction definitions generalizing environments with
  | nil =>
    cases (yields_pure []).eq_ok gives
    rfl
  | cons definition rest ih =>
    rw [List.mapM_cons] at gives
    obtain ⟨environment, head, gives⟩ := gives.of_bind
    obtain ⟨others, tail, gives⟩ := gives.of_bind
    cases (yields_pure _).eq_ok gives
    obtain ⟨_, _, head⟩ := head.of_bind
    obtain ⟨found, _, head⟩ := head.of_bind
    cases (yields_pure _).eq_ok head
    rw [List.map_cons, List.map_cons, ih tail]

theorem compared_of_survey {disk : Disk} {config : Config} {root : Path} {wanted : List String} {timestamp : String}
    {comparison : Comparison} (gives : Gives (survey disk config root wanted timestamp) comparison) :
    ∃ environments,
      Gives ((chosen wanted (definitions config)).mapM (readEnvironment disk root)) environments ∧
      compared environments config (excluded config) timestamp = .ok comparison := by
  unfold survey at gives
  dsimp only at gives
  split at gives
  · obtain ⟨_, stopped, _⟩ := gives.of_bind
    cases (yields_throw _).eq_ok stopped
  · obtain ⟨_, _, gives⟩ := gives.of_bind
    obtain ⟨environments, read, gives⟩ := gives.of_bind
    obtain ⟨_, _, gives⟩ := gives.of_bind
    obtain ⟨found, made, gives⟩ := gives.of_bind
    cases (yields_pure _).eq_ok gives
    refine ⟨environments, read, ?_⟩
    have lifted := (yields_lift _).eq_ok made
    rw [compared, lifted, names_of_readEnvironments read]
    rfl

theorem Comparison.record_eq (comparison : Comparison) : comparison.record =
    .object [("timestamp", .text comparison.timestamp), ("environments", Json.ofStrings comparison.environments),
      ("environment_info", .object comparison.information),
      ("matrix", Json.ofFields (comparison.rows.map fun row => (row.name, row.cellsRecord))),
      ("rows", .list (comparison.rows.map fun row => .object [("name", .text row.name),
        ("status", .text row.status.name), ("issues", .list (row.findings.map Finding.record))])),
      ("summary", comparison.summary.record)] := rfl

/-- Two comparisons of which nothing that is printed or recorded is different. -/
structure Comparison.Alike (first second : Comparison) : Prop where
  rows : first.rows.map (fun row => (row.name, row.status, row.findings)) =
    second.rows.map fun row => (row.name, row.status, row.findings)
  findings : first.findings = second.findings
  summary : first.summary = second.summary
  record : first.record = second.record
  printed (color : Bool) : Report.grid color first = Report.grid color second

section Printing
variable {first second : List Row} (alike : List.Forall₂ Row.Alike first second)

theorem cellText_alike {cell cell' : Cell} (alike : cell.Alike cell') :
    Report.cellText cell = Report.cellText cell' := by
  rw [Report.cellText, Report.cellText, alike.status, alike.valid]

include alike

theorem findings_of_alike : first.flatMap (·.findings) = second.flatMap (·.findings) := by
  have found := map_alike (fun row row' same => same.findings) alike
  rw [List.flatMap_def, List.flatMap_def, found]

theorem record_of_alike (environments : List String) (information : List (String × Json)) (timestamp : String) :
    Comparison.record ⟨environments, information, first, summary first environments, timestamp⟩ =
      Comparison.record ⟨environments, information, second, summary second environments, timestamp⟩ := by
  have cells : first.map (fun row => (row.name, row.cellsRecord)) =
      second.map fun row => (row.name, row.cellsRecord) := by
    apply map_alike _ alike
    intro row row' same
    rw [same.name, Row.cellsRecord, Row.cellsRecord, cellRecords_alike same.cells]
  have records : first.map (fun row => Json.object [("name", .text row.name), ("status", .text row.status.name),
        ("issues", .list (row.findings.map Finding.record))]) =
      second.map fun row => Json.object [("name", .text row.name), ("status", .text row.status.name),
        ("issues", .list (row.findings.map Finding.record))] := by
    apply map_alike _ alike
    intro row row' same
    rw [same.name, same.status, same.findings]
  simp only [Comparison.record_eq, cells, records, summary_alike alike]

theorem grid_of_alike (environments : List String) (information : List (String × Json)) (timestamp : String)
    (color : Bool) :
    Report.grid color ⟨environments, information, first, summary first environments, timestamp⟩ =
      Report.grid color ⟨environments, information, second, summary second environments, timestamp⟩ := by
  have texts (row row' : Row) (same : row.Alike row') :
      row.name :: environments.map (fun e => Report.cellText (row.cell e)) ++ [row.status.name] =
        row'.name :: environments.map (fun e => Report.cellText (row'.cell e)) ++ [row'.status.name] := by
    have cells : environments.map (fun e => Report.cellText (row.cell e)) =
        environments.map fun e => Report.cellText (row'.cell e) := by
      apply List.map_congr_left
      intro environment _
      exact cellText_alike (cellOf_alike same.cells environment)
    rw [cells, same.name, same.status]
  have table := map_alike texts alike
  have lines (widths : List Nat) :
      first.map (fun row => Report.rowLine color widths row
        (row.name :: environments.map (fun e => Report.cellText (row.cell e)) ++ [row.status.name])) =
      second.map fun row => Report.rowLine color widths row
        (row.name :: environments.map (fun e => Report.cellText (row.cell e)) ++ [row.status.name]) := by
    apply map_alike _ alike
    intro row row' same
    rw [texts row row' same, Report.rowLine, Report.rowLine, same.status]
  have found : Comparison.findings ⟨environments, information, first, summary first environments, timestamp⟩ =
      Comparison.findings ⟨environments, information, second, summary second environments, timestamp⟩ :=
    findings_of_alike alike
  unfold Report.grid
  rw [found]
  simp only [table, lines, summary_alike alike]

end Printing

/-- Environments that differ only in secret values that are set and judged alike cannot be told apart by anything that
a comparison finds, counts, records or prints. Both comparisons return, or both fail alike. -/
theorem compared_conceals {config : Config} {environments environments' : List Environment}
    (alike : List.Forall₂ (Environment.SameButSecrets config) environments environments') (exclude : List String)
    (timestamp : String) :
    EndAlike Comparison.Alike (compared environments config exclude timestamp)
      (compared environments' config exclude timestamp) := by
  apply (rows_alike alike exclude).andThen
  intro first second same
  rw [names_alike alike, information_alike alike]
  have told : first.map (fun row => (row.name, row.status, row.findings)) =
      second.map fun row => (row.name, row.status, row.findings) := by
    apply map_alike _ same
    intro row row' alike
    rw [alike.name, alike.status, alike.findings]
  exact ⟨told, findings_of_alike same, summary_alike same _, record_of_alike same _ _ _, grid_of_alike same _ _ _⟩

def pins (pin : String) : List Environment :=
  [⟨"production", [".env.production"],
      [{ name := "PIN", value := pin, line := 1, file := ".env.production", isSecret := true }], none⟩,
    ⟨"staging", [".env.staging"], [{ name := "PIN", value := "1234", line := 1, file := ".env.staging" }], none⟩]

def pinRules : Config where
  ruleEntries := [("PIN", .read { constraints := { type := some .number } })]

theorem compared_conceals_pin :
    List.Forall₂ (Environment.SameButSecrets pinRules) (pins "1234") (pins "5678") ∧
    EndAlike Comparison.Alike (compared (pins "1234") pinRules [] "") (compared (pins "5678") pinRules [] "") := by
  have judged : valueError? "1234" (pinRules.rule? "PIN") none "production" =
      valueError? "5678" (pinRules.rule? "PIN") none "production" := by
    rfl
  have production : List.Forall₂
      (fun own other => own = other ∨ Interchangeable (pinRules.rule? own.name) "production" own other)
      [{ name := "PIN", value := "1234", line := 1, file := ".env.production", isSecret := true }]
      [{ name := "PIN", value := "5678", line := 1, file := ".env.production", isSecret := true }] :=
    .cons (.inr ⟨rfl, rfl, rfl, by decide, ⟨rfl, rfl⟩, judged⟩) .nil
  have alike : List.Forall₂ (Environment.SameButSecrets pinRules) (pins "1234") (pins "5678") :=
    .cons ⟨rfl, rfl, rfl, production⟩ (.cons ⟨rfl, rfl, rfl, .cons (.inl rfl) .nil⟩ .nil)
  exact ⟨alike, compared_conceals alike [] ""⟩

end EnvAudit.Matrix
