import EnvAudit.Proofs.Audit.Restriction

/-! What an audit finds about one variable depends on this variable alone. Two inputs that agree on it get the same
issues about it, provided that both audits return; what stops one of them may stand with any other variable. -/
namespace EnvAudit

theorem Config.rules_filter {config : Config} (distinct : (config.ruleEntries.map (·.1)).Nodup) (name : String) :
    config.rules.filter (·.1 == name) = (config.rule? name).toList.map (name, ·) := by
  rw [rules, rule?]
  generalize config.ruleEntries = entries at distinct
  induction entries with
  | nil => rfl
  | cons first rest ih =>
    obtain ⟨key, entry⟩ := first
    obtain ⟨new, distinct⟩ := List.nodup_cons.mp distinct
    have tail := ih distinct
    by_cases same : name = key
    · have absent : rest.lookup name = none := by
        apply List.lookup_eq_none_iff.mpr
        rintro ⟨other, later⟩ member
        have differs : name ≠ other := fun equal => new (List.mem_map.mpr ⟨_, member, equal.symm.trans same⟩)
        simpa using differs
      rw [absent] at tail
      cases entry with
      | read rule =>
        change List.filter _ ((key, rule) :: _) = _
        rw [List.filter_cons_of_pos (by simpa using same.symm), tail]
        simp [same, Entry.value?]
      | unread value =>
        rw [List.filterMap_cons_none rfl, tail]
        simp [same, Entry.value?]
    · have later : ((key, entry) :: rest).lookup name = rest.lookup name := by
        rw [List.lookup_cons, beq_false_of_ne same]
      rw [later, ← tail]
      cases entry with
      | read rule => exact List.filter_cons_of_neg (by simpa using Ne.symm same)
      | unread value => rw [List.filterMap_cons_none rfl]

theorem Config.rules_filter_congr {config other : Config} (distinct : (config.ruleEntries.map (·.1)).Nodup)
    (distinct' : (other.ruleEntries.map (·.1)).Nodup) {name : String} (same : config.rule? name = other.rule? name) :
    config.rules.filter (·.1 == name) = other.rules.filter (·.1 == name) := by
  rw [rules_filter distinct, rules_filter distinct', same]

namespace Audit.Input

/-- Whether two inputs say the same about a variable and share what is not about single variables. What they say with
`rules` follows from `rule` where a name has one rule. -/
structure AgreeOn (name : String) (a b : Input) : Prop where
  declared : a.declared.filter (·.name == name) = b.declared.filter (·.name == name)
  used : a.used.filter (·.name == name) = b.used.filter (·.name == name)
  template : a.template.map (·.filter (·.name == name)) = b.template.map (·.filter (·.name == name))
  rule : a.config.rule? name = b.config.rule? name
  rules : a.config.rules.filter (·.1 == name) = b.config.rules.filter (·.1 == name)
  ignore : a.config.ignore = b.config.ignore
  secretPatterns : a.config.secretPatterns = b.config.secretPatterns
  templateFile : a.config.templateFile = b.config.templateFile
  framework : a.framework.or a.config.framework = b.framework.or b.config.framework

variable {name : String} {a b : Input}

theorem AgreeOn.missing (same : AgreeOn name a b) :
    (Missing.issues a.declared a.used a.config).filter (·.name == name) =
      (Missing.issues b.declared b.used b.config).filter (·.name == name) := by
  apply Missing.restrict_issues (· == name) same.used
  · intro other kept
    rw [Missing.isOpen, Missing.isOpen, Declaration.declares_congr (· == name) kept same.declared, same.ignore]
  · intro other kept
    cases eq_of_beq kept
    exact same.rule
  · exact same.rules

theorem AgreeOn.unused (same : AgreeOn name a b) :
    (Unused.issues a.declared a.used a.config a.framework).filter (·.name == name) =
      (Unused.issues b.declared b.used b.config b.framework).filter (·.name == name) := by
  apply Unused.restrict_issues (· == name) same.declared
  intro declaration kept
  rw [Unused.isUnused, Unused.isUnused, Usage.contains_names_congr (· == name) kept same.used, Unused.frameworkNames,
    Unused.frameworkNames, same.framework, same.ignore]

theorem current?_congr {declared declared' : List Declaration}
    (same : declared.filter (·.name == name) = declared'.filter (·.name == name)) :
    Mismatch.current? declared name = Mismatch.current? declared' name := by
  rw [Mismatch.current?, Mismatch.current?, ← List.head?_filter, ← List.head?_filter, List.filter_reverse, same,
    List.filter_reverse]

theorem AgreeOn.mismatch (same : AgreeOn name a b) {found other : List Issue}
    (ok : Mismatch.issues a.declared a.used a.config = .ok found)
    (ok' : Mismatch.issues b.declared b.used b.config = .ok other) :
    found.filter (·.name == name) = other.filter (·.name == name) := by
  apply Mismatch.restrict_issues (· == name) same.used _ ok ok'
  intro checked kept
  cases eq_of_beq kept
  rw [Mismatch.ofName?, Mismatch.ofName?, Mismatch.subject?, Mismatch.subject?, Mismatch.activeRule?,
    Mismatch.activeRule?, Mismatch.usagesOf, Mismatch.usagesOf, current?_congr same.declared, same.ignore, same.rule,
    same.used]

theorem AgreeOn.exposure (same : AgreeOn name a b) {found other : List Issue}
    (ok : Exposure.issues a.declared a.config = .ok found) (ok' : Exposure.issues b.declared b.config = .ok other) :
    found.filter (·.name == name) = other.filter (·.name == name) := by
  obtain ⟨further, compiled, rfl⟩ := Exposure.issues_eq_ok.mp ok
  obtain ⟨further', compiled', rfl⟩ := Exposure.issues_eq_ok.mp ok'
  have patterns : further = further' := by
    rw [Config.secretExpressions, same.secretPatterns] at compiled
    exact Except.ok.inj (compiled.symm.trans compiled')
  rw [patterns]
  apply Exposure.restrict_issues (· == name) same.declared
  intro declaration kept
  cases eq_of_beq kept
  rw [Exposure.isExposed, Exposure.isExposed, Exposure.isTelling, Exposure.isTelling, Exposure.isMarked,
    Exposure.isMarked, same.ignore, same.rule]

theorem AgreeOn.drift (same : AgreeOn name a b) :
    (driftIssues a.declared a.config a.template).filter (·.name == name) =
      (driftIssues b.declared b.config b.template).filter (·.name == name) := by
  have entries := same.template
  have file : a.config.template = b.config.template := by
    rw [Config.template, Config.template, Config.chosenTemplate?, Config.chosenTemplate?, same.templateFile]
  cases first : a.template with
  | none =>
    cases second : b.template with
    | none => rfl
    | some _ => simp [first, second] at entries
  | some _ =>
    cases second : b.template with
    | none => simp [first, second] at entries
    | some _ =>
      rw [first, second] at entries
      rw [driftIssues, driftIssues, file, same.ignore]
      exact Drift.restrict_issues (· == name) same.declared (Option.some.inj entries) fun _ _ => rfl

def ofValue (value : String) : Input where
  declared := [{ name := "W", value, line := 1, file := ".env" }]
  used := [{ name := "W", file := "src/index.ts", line := 1, column := 0, access := .direct },
    { name := "V", file := "src/index.ts", line := 2, column := 0, access := .direct }]
  config := { ruleEntries := [("W", .read { constraints := { type := some .json } })] }

theorem ofValue_agreeOn (value value' : String) : AgreeOn "V" (ofValue value) (ofValue value') where
  declared := by simp [ofValue]
  used := rfl
  template := rfl
  rule := rfl
  rules := rfl
  ignore := rfl
  secretPatterns := rfl
  templateFile := rfl
  framework := rfl

theorem ofValue_completes {value : String} : (ofValue value).Completes ↔ ¬ Json.IsTooDeep value.toList := by
  have names : Mismatch.readNames (ofValue value).used = ["W", "V"] := rfl
  constructor
  · rintro ⟨_, values⟩
    have first := values "W" (by simp [names]) _ rfl
    exact first.shallow rfl
  · intro shallow
    refine ⟨by simp [ofValue], ?_⟩
    intro name read declaration subject
    rw [names] at read
    rcases List.mem_pair.mp read with rfl | rfl
    · cases subject
      refine ⟨fun _ => shallow, ?_⟩
      intro setting active
      cases active
    · cases subject

/-- Inputs that agree on a variable get the same issues about it in the same order exactly when nothing stops either
audit. -/
theorem same_issues_iff_completes (same : AgreeOn name a b) :
    (∃ found other, a.issues = .ok found ∧ b.issues = .ok other ∧
        found.filter (·.name == name) = other.filter (·.name == name)) ↔
      a.Completes ∧ b.Completes := by
  constructor
  · rintro ⟨found, other, ok, ok', _⟩
    exact ⟨issues_returns.mp ⟨found, ok⟩, issues_returns.mp ⟨other, ok'⟩⟩
  · rintro ⟨complete, complete'⟩
    obtain ⟨found, ok⟩ := issues_returns.mpr complete
    obtain ⟨other, ok'⟩ := issues_returns.mpr complete'
    refine ⟨found, other, ok, ok', ?_⟩
    obtain ⟨mismatched, exposed, checked, searched, rfl⟩ := issues_eq_ok.mp ok
    obtain ⟨mismatched', exposed', checked', searched', rfl⟩ := issues_eq_ok.mp ok'
    simp only [List.filter_append]
    rw [same.missing, same.unused, same.mismatch checked checked', same.exposure searched searched', same.drift]

theorem same_issues_of_shallow_values : ∃ found other,
    (ofValue "[]").issues = .ok found ∧ (ofValue "no").issues = .ok other ∧
    found.filter (·.name == "V") = other.filter (·.name == "V") :=
  (same_issues_iff_completes (ofValue_agreeOn "[]" "no")).mpr
    ⟨ofValue_completes.mpr (by rintro ⟨⟩), ofValue_completes.mpr (by rintro ⟨⟩)⟩

theorem not_returns_of_deep_value {count : Nat} (deep : Json.nestingLimit < count) :
    ¬ Returns (ofValue (String.ofList (List.replicate count '[' ++ List.replicate count ']'))).issues := by
  rw [issues_returns, ofValue_completes, String.toList_ofList, not_not]
  exact Json.isTooDeep_brackets deep _

end Audit.Input
end EnvAudit
