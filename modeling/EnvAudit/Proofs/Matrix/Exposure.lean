import EnvAudit.Proofs.Audit.Restriction
import EnvAudit.Proofs.Declaration.Reading
import EnvAudit.Proofs.Matrix.Concealment
import EnvAudit.Proofs.Matrix.Rows
import EnvAudit.Proofs.Secret.Coverage

/-! What a comparison of environments shows of exposed secrets. The record of a cell leaves out the value of a variable
that was flagged when it was read or that its rule marks, and of no other one. So it shows the value of an exposed
secret exactly when the secret was found by neither of these, but by a further pattern or by a sign that no pattern of
the reading covers. -/
namespace EnvAudit.Json

/-- Of the fields with one name the last one remains. -/
theorem field?_ofFields (fields : List (String × Json)) (name : String) :
    (ofFields fields).field? name = fields.reverse.lookup name := by
  have folded (kept : List (String × Json)) :
      (fields.foldl (fun kept field => setField field.1 field.2 kept) kept).lookup name =
        (fields.reverse.lookup name).or (kept.lookup name) := by
    induction fields generalizing kept with
    | nil => rfl
    | cons field rest ih =>
      obtain ⟨own, value⟩ := field
      rw [List.foldl_cons, ih, List.reverse_cons, List.lookup_append, Option.or_assoc]
      congr 1
      by_cases same : name = own
      · rw [same, lookup_setField_same, List.lookup_cons_self]
        rfl
      · rw [lookup_setField_of_ne same, List.lookup_cons, beq_false_of_ne same]
        rfl
  calc (ofFields fields).field? name
      = (fields.foldl (fun kept field => setField field.1 field.2 kept) []).lookup name := rfl
    _ = (fields.reverse.lookup name).or none := folded []
    _ = fields.reverse.lookup name := Option.or_none

theorem field?_ofFields_of_forall {fields : List (String × Json)} {name : String} {value : Json}
    (present : (name, value) ∈ fields) (alike : ∀ other, (name, other) ∈ fields → other = value) :
    (ofFields fields).field? name = some value := by
  rw [field?_ofFields]
  have listed : (name, value) ∈ fields.reverse := List.mem_reverse.mpr present
  have alike' : ∀ other, (name, other) ∈ fields.reverse → other = value :=
    fun other member => alike other (List.mem_reverse.mp member)
  generalize fields.reverse = fields at listed alike'
  induction fields with
  | nil => cases listed
  | cons field rest ih =>
    obtain ⟨own, first⟩ := field
    by_cases same : name = own
    · subst same
      rw [List.lookup_cons_self, alike' first List.mem_cons_self]
    · rw [List.lookup_cons, beq_false_of_ne same]
      rcases List.mem_cons.mp listed with here | later
      · cases here
        exact absurd rfl same
      · exact ih later fun other member => alike' other (List.mem_cons_of_mem _ member)

end EnvAudit.Json

namespace EnvAudit.Matrix

def Comparison.cell? (comparison : Comparison) (environment name : String) : Option Json :=
  ((comparison.record.field? "matrix").bind (·.field? name)).bind (·.field? environment)

theorem Cell.value?_record (cell : Cell) :
    cell.record.field? "value" = if cell.isSecret then none else cell.value.map .text := by
  obtain ⟨status, valid, value, file, line, error, secret⟩ := cell
  cases secret <;> cases value <;> cases file <;> cases line <;> cases error <;> rfl

theorem Row.field?_cellsRecord (row : Row) (own : String) :
    row.cellsRecord.field? own = (row.cells.lookup own).map Cell.record := by
  rw [cellsRecord, Json.field?]
  induction row.cells with
  | nil => rfl
  | cons entry rest ih =>
    rw [List.map_cons, List.lookup_cons, List.lookup_cons, ih]
    split <;> rfl

section Cells
variable {config : Config} {name : String} {environment : Environment} {before after : List Environment}
  {exclude : List String} {timestamp : String} {comparison : Comparison}

/-- The record of a comparison tells the cell of every variable that takes part in every environment that is the last
one of its name. -/
theorem cell?_of_compared (made : compared (before ++ environment :: after) config exclude timestamp = .ok comparison)
    (last : ∀ later ∈ after, later.name ≠ environment.name)
    (compares : name ∈ names (before ++ environment :: after) config exclude) :
    ∃ own, cell (Declaration.find? environment.declarations name) (config.rule? name)
        ((config.rule? name).bind (·.override? environment.name)) environment.name = .ok own ∧
      comparison.cell? environment.name name = some own.record := by
  obtain ⟨rows, found, made⟩ := Outcome.bind_eq_ok.mp made
  cases made
  obtain ⟨row, listed, made⟩ := row_of_mem_names found compares
  -- Rows of one name are the same, so that it does not matter which one the record keeps.
  have unique (other : Row) (member : other ∈ rows) (named : other.name = name) : other = row := by
    obtain ⟨_, made'⟩ := rowOf_of_mem found member
    rw [named, made] at made'
    cases made'
    rfl
  obtain ⟨cells, ok, same⟩ := rowOf_eq_ok.mp made
  obtain ⟨own, judged, held⟩ := lookup_cellsOf ok last
  refine ⟨own, judged, ?_⟩
  have told : (Json.ofFields (rows.map fun row => (row.name, row.cellsRecord))).field? name =
      some row.cellsRecord := by
    apply Json.field?_ofFields_of_forall
    · exact List.mem_map.mpr ⟨row, listed, by rw [same]⟩
    · intro other member
      obtain ⟨row', member', here⟩ := List.mem_map.mp member
      obtain ⟨named, rfl⟩ := Prod.mk.inj here
      rw [unique row' member' named]
  have matrix (comparison : Comparison) : comparison.record.field? "matrix" =
      some (Json.ofFields (comparison.rows.map fun row => (row.name, row.cellsRecord))) := rfl
  rw [Comparison.cell?, matrix, Option.bind_some, told, Option.bind_some, Row.field?_cellsRecord, same, held]
  rfl

end Cells

/-- How a secret is found that was neither flagged when it was read nor marked by its rule. -/
inductive IsFoundElse (config : Config) (declaration : Declaration) : Prop
  | further {patterns : List Pattern} (compiled : config.secretExpressions = .ok patterns)
    (found : Exposure.isFoundBy patterns declaration = true) : IsFoundElse config declaration
  | named {sign : Secret.NameSign} (shows : Secret.nameSignOf? declaration.name = some sign)
    (gap : (Secret.nameGaps.lookup sign.pattern.source).isSome = true) : IsFoundElse config declaration
  | valued {sign : Secret.ValueSign} (shows : Secret.valueSignOf? declaration.value = some sign)
    (gap : (Secret.valueGaps.lookup sign.pattern.source).isSome = true) : IsFoundElse config declaration

section Exposed
variable {config : Config} {declaration : Declaration} {text : List Char} {file : String} {found : Declarations}

theorem isFoundElse_of_isExposed {patterns : List Pattern} (compiled : config.secretExpressions = .ok patterns)
    (valid : Declaration.isName declaration.name.toList = true)
    (exposed : Exposure.isExposed config patterns declaration = true)
    (unmarked : Exposure.isMarked config declaration.name = false)
    (unlikely : Secret.isLikely declaration.name declaration.value [] = false) : IsFoundElse config declaration := by
  simp only [Exposure.isExposed, Exposure.isTelling, unmarked, Bool.and_eq_true, Bool.or_eq_true, bne_iff_ne,
    Bool.or_false] at exposed
  obtain ⟨⟨⟨set, _⟩, telling⟩, _⟩ := exposed
  have unflagged : Secret.IsUnflagged declaration.name declaration.value := ⟨valid, set, unlikely⟩
  rcases telling with (named | valued) | further
  · obtain ⟨sign, shows⟩ := Option.isSome_iff_exists.mp named
    obtain ⟨member, occurs⟩ := Secret.mem_of_nameSignOf? shows
    exact .named shows ((Secret.nameGap_iff member).mpr ⟨_, _, unflagged, occurs⟩)
  · obtain ⟨sign, shows⟩ := Option.isSome_iff_exists.mp valued
    obtain ⟨member, occurs⟩ := Secret.mem_of_valueSignOf? shows
    exact .valued shows ((Secret.valueGap_iff member).mpr ⟨_, _, unflagged, occurs⟩)
  · exact .further compiled further

theorem isExposed_of_issue (parsed : Declaration.parse text file = .ok found) (declared : declaration ∈ found.declared)
    {issues : List Issue} (judged : Exposure.issues found.declared config = .ok issues) {issue : Issue}
    (reports : issue ∈ issues) (placed : issue.location = some ⟨declaration.file, declaration.line, none⟩) :
    ∃ patterns, config.secretExpressions = .ok patterns ∧
      Exposure.isExposed config patterns declaration = true := by
  obtain ⟨patterns, compiled, rfl⟩ := Exposure.issues_eq_ok.mp judged
  obtain ⟨other, listed, rfl⟩ := List.mem_map.mp reports
  obtain ⟨declared', exposed⟩ := List.mem_filter.mp listed
  have located : (⟨other.file, other.line, none⟩ : Location) = ⟨declaration.file, declaration.line, none⟩ :=
    Option.some.inj placed
  have line : other.line = declaration.line := Int.ofNat.inj (congrArg Location.line located)
  obtain ⟨name, value⟩ := Declaration.eq_of_line parsed declared' declared line
  refine ⟨patterns, compiled, ?_⟩
  rw [← exposed]
  simp only [Exposure.isExposed, Exposure.isTelling, Exposure.isFoundBy, name, value]

/-- The record of a comparison leaves out the value of an exposed secret exactly when its rule marks the variable or it
was flagged when it was read. A value that is not left out is that of a secret that was found by other means: by a
further pattern or by a sign that no pattern of the reading covers. -/
theorem exposed_omitted_iff (parsed : Declaration.parse text file = .ok found)
    (declared : declaration ∈ found.declared) {issues : List Issue}
    (judged : Exposure.issues found.declared config = .ok issues) {issue : Issue} (reports : issue ∈ issues)
    (placed : issue.location = some ⟨declaration.file, declaration.line, none⟩) {before after : List Environment}
    {environment : Environment} {exclude : List String} {timestamp : String} {comparison : Comparison}
    (made : compared (before ++ environment :: after) config exclude timestamp = .ok comparison)
    (last : ∀ later ∈ after, later.name ≠ environment.name)
    (holds : Declaration.find? environment.declarations declaration.name = some declaration)
    (takes : exclude.any (NameGlob.covers · declaration.name) = false) :
    ∃ shown, comparison.cell? environment.name declaration.name = some shown ∧
      (shown.field? "value" = none ↔ Exposure.isMarked config declaration.name = true ∨
        Secret.isLikely declaration.name declaration.value [] = true) ∧
      (shown.field? "value" ≠ none → shown.field? "value" = some (.text declaration.value) ∧
        IsFoundElse config declaration) := by
  obtain ⟨patterns, compiled, exposed⟩ := isExposed_of_issue parsed declared judged reports placed
  have valid := (Declaration.reports_of_ofLines parsed).isName_of_mem (List.mem_map_of_mem declared)
  have flag := Declaration.isSecret_of_ofLines parsed declared
  have compares : declaration.name ∈ names (before ++ environment :: after) config exclude := by
    have listed : declaration.name ∈
        (before ++ environment :: after).flatMap fun e => Declaration.names e.declarations :=
      List.mem_flatMap.mpr ⟨environment, List.mem_append_cons_self,
        List.mem_map_of_mem (List.mem_of_find?_eq_some holds)⟩
    refine List.mem_filter.mpr ⟨?_, by rw [takes]; rfl⟩
    exact mem_sortStrings.mpr (Text.mem_distinct.mpr (List.mem_append_left _ listed))
  obtain ⟨own, state, shown⟩ := cell?_of_compared made last compares
  rw [holds] at state
  obtain ⟨error, _, state⟩ := Outcome.bind_eq_ok.mp state
  cases state
  have marked : Exposure.isMarked config declaration.name =
      ((config.rule? declaration.name).map (·.secret)).getD false := by
    unfold Exposure.isMarked
    cases config.rule? declaration.name <;> rfl
  have secret : (declaredCell declaration (config.rule? declaration.name) error).isSecret =
      (Secret.isLikely declaration.name declaration.value [] || Exposure.isMarked config declaration.name) := by
    rw [marked, ← flag]
    rfl
  refine ⟨_, shown, ?_⟩
  rw [Cell.value?_record, secret]
  cases unmarked : Exposure.isMarked config declaration.name with
  | true => simp
  | false =>
    cases unlikely : Secret.isLikely declaration.name declaration.value [] with
    | true => simp
    | false =>
      have other := isFoundElse_of_isExposed compiled valid exposed unmarked unlikely
      exact ⟨by simp [declaredCell], fun _ => ⟨rfl, other⟩⟩

end Exposed

def dsn : Declaration where
  name := "SENTRY_DSN"
  value := "https://abc@o1.ingest.sentry.io/1"
  line := 1
  file := ".env"
  shape := some .string
  raw := some "SENTRY_DSN=https://abc@o1.ingest.sentry.io/1"

theorem exposed_omitted_iff_dsn : ∃ comparison shown,
    Declaration.parse "SENTRY_DSN=https://abc@o1.ingest.sentry.io/1\n".toList ".env" = .ok ⟨[dsn], []⟩ ∧
    Exposure.issues [dsn] {} = .ok [Exposure.ofDeclaration dsn] ∧
    compared [⟨"production", [".env"], [dsn], none⟩] {} [] "" = .ok comparison ∧
    comparison.cell? "production" "SENTRY_DSN" = some shown ∧
    shown.field? "value" = some (.text "https://abc@o1.ingest.sentry.io/1") ∧ IsFoundElse {} dsn := by
  have parsed : Declaration.parse "SENTRY_DSN=https://abc@o1.ingest.sentry.io/1\n".toList ".env" = .ok ⟨[dsn], []⟩ :=
    Outcome.eq_ok_of_toOption (by decide +kernel)
  have exposed : [dsn].filter (Exposure.isExposed {} []) = [dsn] := by decide +kernel
  have judged : Exposure.issues [dsn] {} = .ok [Exposure.ofDeclaration dsn] :=
    Exposure.issues_eq_ok.mpr ⟨[], rfl, by rw [Exposure.issuesWith, exposed]; rfl⟩
  have returns : (compared [⟨"production", [".env"], [dsn], none⟩] {} [] "").toOption.isSome = true := by decide +kernel
  obtain ⟨comparison, made⟩ := Option.isSome_iff_exists.mp returns
  have made : compared ([] ++ ⟨"production", [".env"], [dsn], none⟩ :: []) {} [] "" = .ok comparison :=
    Outcome.eq_ok_of_toOption made
  obtain ⟨shown, told, omitted, discloses⟩ := exposed_omitted_iff parsed List.mem_cons_self judged
    List.mem_cons_self rfl made (fun _ later => by cases later) rfl rfl
  have visible : shown.field? "value" ≠ none := by
    have unlikely : Secret.isLikely dsn.name dsn.value [] = false := by decide +kernel
    have unmarked : Exposure.isMarked {} dsn.name = false := rfl
    rw [ne_eq, omitted, unlikely, unmarked]
    decide
  exact ⟨comparison, shown, parsed, judged, made, told, discloses visible⟩

end EnvAudit.Matrix
