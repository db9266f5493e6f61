import EnvAudit.Proofs.Audit.Comparison
import EnvAudit.Proofs.Audit.Completion
import EnvAudit.Proofs.Audit.Ignoring
import EnvAudit.Proofs.Audit.Locality
import EnvAudit.Proofs.Audit.Remedy
import EnvAudit.Proofs.Declaration.Layers
import Mathlib.Data.List.Count
import Mathlib.Data.Prod.Basic

/-! How often an audit tells the same of a variable. Every analysis goes through names of which each occurs once: those
that code reads first, those of the rules, those that the files declare. Only a template is taken as it is written, so
that a name that it repeats is told as often as it stands there. -/
namespace EnvAudit

namespace Issue

def key (issue : Issue) : IssueKind × String := (issue.kind, issue.name)

variable {found : List Issue} {kind : IssueKind} {name : String}

theorem count_keys_eq_zero {ignore : List String} {topic : Topic} (under : ∀ issue ∈ found, issue.IsUnder ignore topic)
    (other : kind.topic? ≠ some topic) : (found.map key).count (kind, name) = 0 := by
  rw [List.count_eq_zero]
  intro listed
  obtain ⟨issue, member, same⟩ := List.mem_map.mp listed
  have kinds : issue.kind = kind := congrArg Prod.fst same
  exact other (kinds ▸ (under issue member).kind)

theorem count_keys_le {ignore : List String} {topic : Topic} (under : ∀ issue ∈ found, issue.IsUnder ignore topic)
    (unique : (found.map (·.name)).Nodup) :
    (found.map key).count (kind, name) ≤ if kind.topic? = some topic then 1 else 0 := by
  split
  · apply List.nodup_iff_count_le_one.mp
    apply List.Nodup.of_map Prod.snd
    rw [List.map_map]
    exact unique
  · next other => rw [count_keys_eq_zero under other]

end Issue

namespace Missing
variable {declared : List Declaration} {config : Config}

theorem nodup_names_firstReads (used : List Usage) (reported : List String) :
    ((firstReads declared config used reported).map (·.name)).Nodup := by
  induction used generalizing reported with
  | nil => exact List.nodup_nil
  | cons usage rest ih =>
    rw [firstReads_cons]
    split
    · rw [List.map_cons, List.nodup_cons]
      refine ⟨fun again => ?_, ih _⟩
      exact (mem_firstReads_iff.mp again).2.2 List.mem_cons_self
    · exact ih reported

theorem nodup_names_rules (distinct : (config.ruleEntries.map (·.1)).Nodup) : (config.rules.map (·.1)).Nodup := by
  rw [List.nodup_iff_count_le_one]
  intro name
  have found : (config.rules.map (·.1)).count name = (config.rules.filter (·.1 == name)).length := by
    rw [List.count_eq_countP, List.countP_map, List.countP_eq_length_filter]
    rfl
  rw [found, Config.rules_filter distinct, List.length_map]
  cases config.rule? name <;> simp

theorem nodup_names_issues (distinct : (config.ruleEntries.map (·.1)).Nodup) (used : List Usage) :
    ((issues declared used config).map (·.name)).Nodup := by
  rw [names_issues, List.nodup_append]
  refine ⟨nodup_names_firstReads used [], (nodup_names_rules distinct).sublist (List.filter_sublist.map _), ?_⟩
  rintro name read _ required rfl
  obtain ⟨entry, listed, rfl⟩ := List.mem_map.mp required
  have unread := (List.mem_filter.mp listed).2
  simp only [Bool.and_eq_true, Bool.not_eq_true', List.contains_eq_mem, decide_eq_false_iff_not] at unread
  exact unread.1.2 read

end Missing

theorem Unused.nodup_names_issues {declared : List Declaration} (distinct : (Declaration.names declared).Nodup)
    (used : List Usage) (config : Config) (framework : Option Framework) :
    ((issues declared used config framework).map (·.name)).Nodup := by
  rw [issues, List.map_map]
  exact distinct.sublist (List.filter_sublist.map _)

theorem Exposure.nodup_names_issuesWith {declared : List Declaration}
    (distinct : (Declaration.names declared).Nodup) (further : List Pattern) (config : Config) :
    ((issuesWith further declared config).map (·.name)).Nodup := by
  rw [issuesWith, List.map_map]
  exact distinct.sublist (List.filter_sublist.map _)

namespace Mismatch
variable {declared : List Declaration} {used : List Usage} {config : Config}

theorem names_results_sublist {names : List String} {results : List (Option Issue)}
    (related : List.Forall₂ (fun name result => ofName? declared used config name = .ok result) names results) :
    ((results.filterMap id).map (·.name)).Sublist names := by
  induction related with
  | nil => exact List.Sublist.slnil
  | @cons name result names results head _ ih =>
    cases result with
    | none => exact ih.cons name
    | some issue =>
      have named : issue.name = name := (ofName?_isAbout head).name
      exact named ▸ ih.cons_cons issue.name

theorem nodup_names_issues {found : List Issue} (ok : issues declared used config = .ok found) :
    (found.map (·.name)).Nodup := by
  obtain ⟨results, checked, same⟩ := Outcome.bind_eq_ok.mp ok
  cases same
  exact (Text.nodup_distinct _).sublist (names_results_sublist (Outcome.mapM_eq_ok.mp checked))

end Mismatch

namespace Drift
open Declaration
variable {declared template : List Declaration} {ignore : List String} {name : String}

theorem count_lacking (here there : List Declaration) : (names (lacking ignore here there)).count name =
    if name ∉ names there ∧ Ignore.silences ignore name .syncDrift = false then (names here).count name else 0 := by
  rw [names_lacking]
  split
  · next told => exact List.count_filter (by simpa [declares] using told)
  · next hidden =>
    rw [List.count_eq_zero, List.mem_filter]
    rintro ⟨_, told⟩
    exact hidden (by simpa [declares] using told)

theorem count_keys (templateFile : String) :
    ((compare declared template templateFile ignore).issues.map Issue.key).count (.syncDrift, name) =
      (names (lacking ignore declared template)).count name +
        (names (lacking ignore template declared)).count name := by
  have named (items : List String) : (items.map (IssueKind.syncDrift, ·)).count (.syncDrift, name) = items.count name :=
    List.count_map_of_injective _ _ (Prod.mk_right_injective _) name
  rw [← named, ← named, ← List.count_append, ← List.map_append, compare, List.map_append, List.map_map, List.map_map,
    List.map_append, names, names, List.map_map, List.map_map]
  rfl

theorem repeated_iff (distinct : (names declared).Nodup) (templateFile : String) :
    1 < ((compare declared template templateFile ignore).issues.map Issue.key).count (.syncDrift, name) ↔
      1 < (names template).count name ∧ name ∉ names declared ∧ Ignore.silences ignore name .syncDrift = false := by
  rw [count_keys, count_lacking, count_lacking]
  by_cases here : name ∈ names declared
  · have once : (names declared).count name ≤ 1 := List.nodup_iff_count_le_one.mp distinct name
    have removed : ¬ (name ∉ names declared ∧ Ignore.silences ignore name .syncDrift = false) := by simp [here]
    rw [if_neg removed]
    simp only [here, not_true_eq_false, false_and, and_false, iff_false]
    split <;> omega
  · have none : (names declared).count name = 0 := List.count_eq_zero.mpr here
    rw [none, ite_self, Nat.zero_add]
    split
    · next told => simp [told]
    · next hidden => simp [hidden]

end Drift

namespace Audit.Input
open Declaration
variable {input : Input} {found : List Issue} {kind : IssueKind} {name : String}

theorem count_keys_driftIssues (declared : List Declaration) (config : Config) (template : Option (List Declaration))
    (other : kind ≠ .syncDrift) : ((driftIssues declared config template).map Issue.key).count (kind, name) = 0 := by
  cases template with
  | none => rfl
  | some template =>
    have topic : kind.topic? ≠ some .syncDrift := by cases kind <;> simp [IssueKind.topic?] at other ⊢
    exact Issue.count_keys_eq_zero (fun _ => Drift.of_mem_issues) topic

theorem repeated_iff (rules : (input.config.ruleEntries.map (·.1)).Nodup)
    (distinct : (names input.declared).Nodup) (ok : input.issues = .ok found) :
    1 < (found.map Issue.key).count (kind, name) ↔ kind = .syncDrift ∧ ∃ template, input.template = some template ∧
      1 < (names template).count name ∧ name ∉ names input.declared ∧
        Ignore.silences input.config.ignore name .syncDrift = false := by
  obtain ⟨mismatched, exposed, checked, searched, rfl⟩ := issues_eq_ok.mp ok
  obtain ⟨further, _, rfl⟩ := Exposure.issues_eq_ok.mp searched
  simp only [List.map_append, List.count_append]
  have missing := @Issue.count_keys_le _ kind name _ _ (fun _ => Missing.of_mem_issues)
    (@Missing.nodup_names_issues input.declared _ rules input.used)
  have unused := @Issue.count_keys_le _ kind name _ _ (fun _ => Unused.of_mem_issues)
    (Unused.nodup_names_issues distinct input.used input.config input.framework)
  have mismatch := @Issue.count_keys_le _ kind name _ _ (fun _ => Mismatch.of_mem_issues checked)
    (Mismatch.nodup_names_issues checked)
  have exposure := @Issue.count_keys_le _ kind name _ _ (fun _ => Exposure.of_mem_issuesWith)
    (Exposure.nodup_names_issuesWith distinct further input.config)
  by_cases drifting : kind = .syncDrift
  · subst drifting
    simp only [IssueKind.topic?, reduceCtorEq, Option.some.injEq, if_false, Nat.le_zero]
      at missing unused mismatch exposure
    rw [missing, unused, mismatch, exposure, Nat.zero_add]
    cases input.template with
    | none => simp [driftIssues]
    | some template =>
      simp only [true_and, Option.some.injEq, exists_eq_left']
      exact Drift.repeated_iff distinct input.config.template
  · rw [count_keys_driftIssues _ _ _ drifting]
    simp only [drifting, false_and, iff_false]
    -- An analysis counts for its own kinds only, and no two have a kind in common.
    cases kind
    all_goals
      simp only [IssueKind.topic?, reduceCtorEq, Option.some.injEq, if_true, if_false]
        at missing unused mismatch exposure
      omega

end Audit.Input

namespace Project
open Logged

/-- An audit tells something of a variable more than once exactly when this is a drift and the template repeats the
name, which neither a file declares nor an entry silences. -/
theorem repeated_iff_of_audit {disk : Disk} {config : Config} {findings : Findings}
    (audited : (audit disk config).outcome.1 = .ok findings) (rules : (config.ruleEntries.map (·.1)).Nodup)
    (kind : IssueKind) (name : String) :
    1 < (findings.issues.map Issue.key).count (kind, name) ↔
      kind = .syncDrift ∧ ∃ template, findings.template = some template ∧
        1 < (Declaration.names template).count name ∧ name ∉ Declaration.names findings.declared ∧
          Ignore.silences config.ignore name .syncDrift = false := by
  obtain ⟨found, _, _, _, read, _, declared, _, judged, template⟩ := parts_of_audit (gives_of_outcome audited)
  rw [declared, template]
  exact Audit.Input.repeated_iff rules (Declaration.nodup_names_readFiles read) judged

/-- A disk with a template that has a name twice. The root of the project is missing, so there are no sources. -/
def doubledDisk : Disk where
  tree := .directory [(".env", .file []), (".env.example", .file (Text.encodeUtf8 "FOO=1\nFOO=2\n".toList))]
  working := ⟨"/", []⟩

def doubledConfig : Config :=
  { root := "/gone", declarationFiles := ["/.env"], templateFile := some "/.env.example", framework := some .node }

def doubles (name : String) (outcome : Except Failure Findings) : Bool :=
  match outcome with
  | .ok findings => !Declaration.declares findings.declared name &&
      findings.template.any fun template => decide (1 < (Declaration.names template).count name)
  | .error _ => false

theorem repeated_of_doubled : ∃ findings, (audit doubledDisk doubledConfig).outcome.1 = .ok findings ∧
    1 < (findings.issues.map Issue.key).count (.syncDrift, "FOO") := by
  have found : doubles "FOO" (audit doubledDisk doubledConfig).outcome.1 = true := by decide +kernel
  cases audited : (audit doubledDisk doubledConfig).outcome.1 with
  | error failure =>
    rw [audited] at found
    cases found
  | ok findings =>
    rw [audited, doubles, Bool.and_eq_true] at found
    obtain ⟨undeclared, doubled⟩ := found
    cases read : findings.template with
    | none =>
      rw [read] at doubled
      cases doubled
    | some template =>
      rw [read, Option.any_some] at doubled
      have undeclared : "FOO" ∉ Declaration.names findings.declared := by simpa [Declaration.declares] using undeclared
      refine ⟨findings, rfl, (repeated_iff_of_audit audited (by decide) .syncDrift "FOO").mpr ?_⟩
      exact ⟨rfl, template, read, of_decide_eq_true doubled, undeclared, rfl⟩

end Project
end EnvAudit
