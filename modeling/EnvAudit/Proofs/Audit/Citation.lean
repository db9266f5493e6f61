import EnvAudit.Proofs.Audit.Masking
import Mathlib.Data.List.MinMax

/-! What an issue about a value says of the code that reads it. The expected shape is the one that most reads of the
variable suggest, of equally frequent ones the first. The place that is named is always the first read of the variable,
and so it shows the expected shape only if a read of that shape stands at the same place. -/
namespace EnvAudit

namespace Text
variable {α : Type} [BEq α] [LawfulBEq α] {a b : α}

theorem idxOf_filter_le_iff {keep : α → Bool} (first : keep a = true) (second : keep b = true) (items : List α) :
    (items.filter keep).idxOf a ≤ (items.filter keep).idxOf b ↔ items.idxOf a ≤ items.idxOf b := by
  induction items with
  | nil => rfl
  | cons item rest ih =>
    by_cases kept : keep item = true
    · rw [List.filter_cons_of_pos kept, List.idxOf_cons, List.idxOf_cons, List.idxOf_cons, List.idxOf_cons]
      cases item == a <;> cases item == b <;> simp [ih]
    · have apart {other : α} (own : keep other = true) : item ≠ other := fun same => kept (same ▸ own)
      rw [List.filter_cons_of_neg kept, List.idxOf_cons_ne _ (apart first), List.idxOf_cons_ne _ (apart second), ih,
        Nat.succ_le_succ_iff]

theorem idxOf_distinct_le_iff (items : List α) :
    (distinct items).idxOf a ≤ (distinct items).idxOf b ↔ items.idxOf a ≤ items.idxOf b := by
  induction items with
  | nil => rfl
  | cons item rest ih =>
    rw [distinct_cons]
    by_cases first : item = a
    · simp [first]
    · by_cases second : item = b
      · simp [second, List.idxOf_cons_ne _ (second ▸ first : b ≠ a)]
      · rw [List.idxOf_cons_ne _ first, List.idxOf_cons_ne _ second, List.idxOf_cons_ne _ first,
          List.idxOf_cons_ne _ second, Nat.succ_le_succ_iff, Nat.succ_le_succ_iff, ← ih]
        exact idxOf_filter_le_iff (by simpa using Ne.symm first) (by simpa using Ne.symm second) (distinct rest)

end Text

namespace Shape

/-- Whether a shape leads among some: none is more frequent, and those that are as frequent come later. -/
structure Leads (shape : Shape) (shapes : List Shape) : Prop where
  occurs : shape ∈ shapes
  most : ∀ other, shapes.count other ≤ shapes.count shape
  first : ∀ other ∈ shapes, shapes.count other = shapes.count shape → shapes.idxOf shape ≤ shapes.idxOf other

theorem mostCommon_eq_argmax (shapes : List Shape) :
    mostCommon shapes = (Text.distinct shapes).argmax fun shape => shapes.count shape := by
  unfold mostCommon List.argmax
  congr 1
  funext best shape
  cases best <;> rfl

theorem mostCommon_eq_some_iff {shapes : List Shape} {shape : Shape} :
    mostCommon shapes = some shape ↔ shape.Leads shapes := by
  rw [mostCommon_eq_argmax, List.argmax_eq_some_iff]
  simp only [Text.mem_distinct, Text.idxOf_distinct_le_iff]
  constructor
  · rintro ⟨occurs, most, first⟩
    refine ⟨occurs, fun other => ?_, fun other member same => first other member same.ge⟩
    by_cases member : other ∈ shapes
    · exact most other member
    · rw [List.count_eq_zero.mpr member]
      exact Nat.zero_le _
  · rintro ⟨occurs, most, first⟩
    refine ⟨occurs, fun other _ => most other, fun other member least => ?_⟩
    exact first other member (Nat.le_antisymm (most other) least)

def Misfits (value : String) : Shape → Prop
  | .number => ∃ shape, ofText value.toList = .ok shape ∧ shape ≠ some .number
  | .boolean => String.ofList (Text.lower value.toList) ∉ Mismatch.plainBooleans
  | .json => Json.isWritten value.toList = .ok false
  | .array => ',' ∉ value.toList
  | .string | .other _ => False

end Shape

def Usage.citation (usage : Usage) : String := usage.file ++ ":" ++ toString usage.line

namespace Mismatch
variable {declared : List Declaration} {used : List Usage} {config : Config} {found : List Issue}

def suggested (used : List Usage) (name : String) : List Shape := (usagesOf used name).filterMap (·.shape)

def IsInferred (issue : Issue) : Prop := "inferred_type" ∈ issue.context.map (·.1)

/-- Whether an issue names the place of a read of its variable in a shape. -/
def CitesRead (used : List Usage) (issue : Issue) (shape : Shape) : Prop :=
  ∃ usage ∈ usagesOf used issue.name, usage.shape = some shape ∧ ("used_at", .text usage.citation) ∈ issue.context

theorem complaint?_eq_some_iff {name value shown usedAt : String} {shape : Shape} :
    (∃ complaint, complaint? name value shown usedAt shape = .ok (some complaint)) ↔ shape.Misfits value := by
  cases shape with
  | number =>
    constructor
    · rintro ⟨complaint, made⟩
      obtain ⟨shape, seen, rest⟩ := Outcome.bind_eq_ok.mp made
      refine ⟨shape, seen, ?_⟩
      rintro rfl
      cases rest
    · rintro ⟨shape, seen, other⟩
      have misses : (shape == some .number) = false := beq_eq_false_iff_ne.mpr other
      simp [complaint?, seen, misses, bind, Except.bind, pure, Except.pure]
  | boolean =>
    rw [complaint?, Shape.Misfits, ← List.contains_iff_mem]
    cases plainBooleans.contains (String.ofList (Text.lower value.toList)) <;> simp [pure, Except.pure]
  | json =>
    constructor
    · rintro ⟨complaint, made⟩
      obtain ⟨written, read, rest⟩ := Outcome.bind_eq_ok.mp made
      cases written with
      | true => cases rest
      | false => exact read
    · intro unwritten
      exact ⟨_, Outcome.bind_eq_ok.mpr ⟨false, unwritten, rfl⟩⟩
  | array =>
    rw [complaint?, Shape.Misfits, ← List.contains_iff_mem]
    cases value.toList.contains ',' <;> simp [pure, Except.pure]
  | string => simp [complaint?, Shape.Misfits]
  | other custom => simp [complaint?, Shape.Misfits]

theorem mem_issues (ok : issues declared used config = .ok found) {issue : Issue} :
    issue ∈ found ↔ ∃ name ∈ readNames used, ofName? declared used config name = .ok (some issue) := by
  obtain ⟨results, judged, same⟩ := Outcome.bind_eq_ok.mp ok
  cases same
  rw [List.mem_filterMap, ← Outcome.mem_of_mapM judged]
  simp

theorem not_isInferred_of_rule {declaration : Declaration} {rule : Rule} {issue : Issue}
    (made : byRule? declaration rule = .ok (some issue)) : ¬ IsInferred issue := by
  obtain ⟨violation, _, worded⟩ := byRule?_eq_ok made
  cases violation with
  | type type =>
    rw [ofViolation] at worded
    split at worded <;> cases worded
    simp [IsInferred]
  | pattern pattern =>
    cases worded
    simp [IsInferred]
  | enum allowed =>
    cases worded
    simp [IsInferred]

theorem inferred_iff {name : String} {issue : Issue} :
    ofName? declared used config name = .ok (some issue) ∧ IsInferred issue ↔
      ∃ declaration first shape complaint, subject? declared config name = some declaration ∧
        activeRule? config name = none ∧ declaration.value ≠ "" ∧ (usagesOf used name).head? = some first ∧
        shape.Leads (suggested used name) ∧
        complaint? declaration.name declaration.value (Secret.mask declaration.value declaration.isSecret)
          first.citation shape = .ok (some complaint) ∧
        issue = ofComplaint declaration first shape complaint := by
  simp only [← Shape.mostCommon_eq_some_iff]
  constructor
  · rintro ⟨made, inferred⟩
    rw [ofName?] at made
    split at made
    · cases made
    · next declaration subject =>
      split at made
      · exact absurd inferred (not_isInferred_of_rule made)
      · next unruled =>
        obtain ⟨filled, first, shape, complaint, head, leads, judged, same⟩ := byUsages?_eq_ok.mp made
        exact ⟨declaration, first, shape, complaint, subject, unruled, filled, head, leads, judged, same⟩
  · rintro ⟨declaration, first, shape, complaint, subject, unruled, filled, head, leads, judged, rfl⟩
    constructor
    · rw [ofName?, subject, unruled]
      exact byUsages?_eq_ok.mpr ⟨filled, first, shape, complaint, head, leads, judged, rfl⟩
    · simp [IsInferred, ofComplaint]

theorem mem_readNames {name : String} :
    name ∈ readNames used ↔ name ≠ dynamicName ∧ ∃ usage, usage ∈ usagesOf used name := by
  rw [readNames, Text.mem_distinct, Usage.names, List.mem_map]
  simp only [usagesOf, List.mem_filter, Usage.isNamed, bne_iff_ne, beq_iff_eq]
  constructor
  · rintro ⟨usage, ⟨listed, known⟩, rfl⟩
    exact ⟨known, usage, listed, rfl⟩
  · rintro ⟨known, usage, listed, rfl⟩
    exact ⟨usage, ⟨listed, known⟩, rfl⟩

/-- A variable gets an issue that tells of a shape exactly when its declared value is not empty, no rule constrains it,
and the value misfits the shape that leads among its reads. Such an issue tells this shape and names the place of the
first read, whatever shape that one suggests. -/
theorem inferred_exact (declared : List Declaration) (used : List Usage) (config : Config) {found : List Issue}
    (ok : issues declared used config = .ok found) :
    (∀ name, (∃ issue ∈ found, issue.name = name ∧ IsInferred issue) ↔
      name ≠ dynamicName ∧ ∃ (declaration : Declaration) (shape : Shape),
        subject? declared config name = some declaration ∧ activeRule? config name = none ∧ declaration.value ≠ "" ∧
        shape.Leads (suggested used name) ∧ shape.Misfits declaration.value) ∧
    ∀ issue ∈ found, IsInferred issue → ∃ first shape, (usagesOf used issue.name).head? = some first ∧
      shape.Leads (suggested used issue.name) ∧
      issue.context = [("used_at", .text first.citation), ("inferred_type", .text shape.name)] ∧
      (CitesRead used issue shape ↔
        ∃ usage ∈ usagesOf used issue.name, usage.shape = some shape ∧ usage.citation = first.citation) := by
  constructor
  · intro name
    constructor
    · rintro ⟨issue, member, rfl, inferred⟩
      obtain ⟨name, listed, made⟩ := (mem_issues ok).mp member
      rw [(ofName?_isAbout made).name]
      obtain ⟨declaration, first, shape, complaint, subject, unruled, filled, _, leads, judged, _⟩ :=
        inferred_iff.mp ⟨made, inferred⟩
      exact ⟨(mem_readNames.mp listed).1, declaration, shape, subject, unruled, filled, leads,
        complaint?_eq_some_iff.mp ⟨complaint, judged⟩⟩
    · rintro ⟨known, declaration, shape, subject, unruled, filled, leads, misfits⟩
      obtain ⟨usage, listed, _⟩ := List.mem_filterMap.mp leads.occurs
      obtain ⟨first, others, reads⟩ := List.exists_cons_of_ne_nil (List.ne_nil_of_mem listed)
      obtain ⟨complaint, judged⟩ := complaint?_eq_some_iff.mpr misfits
      have head : (usagesOf used name).head? = some first := by rw [reads, List.head?_cons]
      obtain ⟨made, inferred⟩ := inferred_iff.mpr
        ⟨declaration, first, shape, complaint, subject, unruled, filled, head, leads, judged, rfl⟩
      have member := (mem_issues ok).mpr ⟨name, mem_readNames.mpr ⟨known, usage, listed⟩, made⟩
      exact ⟨_, member, (ofName?_isAbout made).name, inferred⟩
  · intro issue member inferred
    obtain ⟨name, _, made⟩ := (mem_issues ok).mp member
    have named := (ofName?_isAbout made).name
    obtain ⟨declaration, first, shape, complaint, _, _, _, head, leads, _, same⟩ := inferred_iff.mp ⟨made, inferred⟩
    have context : issue.context = [("used_at", .text first.citation), ("inferred_type", .text shape.name)] := by
      rw [same]
      rfl
    rw [named]
    refine ⟨first, shape, head, leads, context, ?_⟩
    rw [CitesRead, named, context]
    simp

def portDeclaration : Declaration := { name := "PORT", value := "abc", line := 1, file := ".env" }

def portReads : List Usage := [{ countingRead "PORT" 1 with shape := none }, countingRead "PORT" 2]

theorem inferred_exact_port : ∃ issue, issues [portDeclaration] portReads {} = .ok [issue] ∧ IsInferred issue ∧
    issue.context.lookup "used_at" = some (.text "src/a.ts:1") ∧ ¬ CitesRead portReads issue .number := by
  obtain ⟨issue, ok, named, inferred, place⟩ : ∃ issue, issues [portDeclaration] portReads {} = .ok [issue] ∧
      issue.name = "PORT" ∧ IsInferred issue ∧ issue.context.lookup "used_at" = some (.text "src/a.ts:1") :=
    ⟨_, rfl, rfl, List.mem_cons_of_mem _ List.mem_cons_self, rfl⟩
  obtain ⟨first, shape, head, leads, _, cites⟩ := (inferred_exact _ _ _ ok).2 _ List.mem_cons_self inferred
  rw [named] at head leads cites
  cases head
  cases Shape.mostCommon_eq_some_iff.mpr leads
  refine ⟨issue, ok, inferred, place, fun cited => ?_⟩
  obtain ⟨usage, listed, counts, same⟩ := cites.mp cited
  have second : usage = countingRead "PORT" 2 := by
    rcases List.mem_cons.mp listed with rfl | later
    · cases counts
    · exact List.mem_singleton.mp later
  rw [second] at same
  exact absurd same (by decide)

end Mismatch
end EnvAudit
