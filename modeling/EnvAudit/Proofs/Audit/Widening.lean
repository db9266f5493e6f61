import EnvAudit.Proofs.Audit.Completion

/-! Further secret patterns. Adding patterns to a configuration takes no issue about a secret away and changes none;
each issue that is new is about a variable that one of the added patterns finds by its name or its value. -/
namespace EnvAudit

inductive Widens {α : Type} (isNew : α → Prop) : List α → List α → Prop
  | done : Widens isNew [] []
  | kept {narrow wide : List α} (item : α) (rest : Widens isNew narrow wide) :
    Widens isNew (item :: narrow) (item :: wide)
  | added {narrow wide : List α} {item : α} (new : isNew item) (rest : Widens isNew narrow wide) :
    Widens isNew narrow (item :: wide)

section Widening
variable {α β : Type} {isNew : β → Prop} {narrow wide : List β}

theorem Widens.sublist (widens : Widens isNew narrow wide) : narrow.Sublist wide := by
  induction widens with
  | done => exact List.Sublist.slnil
  | kept item rest ih => exact ih.cons_cons item
  | added new rest ih => exact ih.cons _

theorem widens_filter {keep keep' : α → Bool} {tell : α → β} {items : List α}
    (more : ∀ item ∈ items, keep item = true → keep' item = true)
    (new : ∀ item ∈ items, keep item = false → keep' item = true → isNew (tell item)) :
    Widens isNew ((items.filter keep).map tell) ((items.filter keep').map tell) := by
  induction items with
  | nil => exact .done
  | cons item rest ih =>
    rw [List.forall_mem_cons] at more new
    have later := ih more.2 new.2
    cases before : keep item with
    | true =>
      have after := more.1 before
      rw [List.filter_cons_of_pos before, List.filter_cons_of_pos after]
      exact .kept _ later
    | false =>
      rw [List.filter_cons_of_neg (by simp [before])]
      cases after : keep' item with
      | true =>
        rw [List.filter_cons_of_pos after]
        exact .added (new.1 before after) later
      | false =>
        rw [List.filter_cons_of_neg (by simp [after])]
        exact later

end Widening

namespace Exposure
variable {patterns further : List String} {config : Config}

def IsFoundBySome (settings : List String) (declaration : Declaration) : Prop :=
  ∃ setting ∈ settings, ∃ pattern, Pattern.ofSetting setting = .ok pattern ∧
    (pattern.occursIn declaration.name = true ∨ pattern.occursIn declaration.value = true)

theorem ofSetting_of_tryCompile {setting : String} {pattern : Pattern}
    (compiled : Pattern.tryCompile setting = .ok (.ok pattern)) : Pattern.ofSetting setting = .ok pattern := by
  unfold Pattern.tryCompile at compiled
  split at compiled
  · next same =>
    cases compiled
    exact same
  · cases compiled
  · cases compiled

theorem isFoundBy_compiled {settings : List String} {compiled : List (Except String Pattern)}
    (ok : settings.mapM Pattern.tryCompile = .ok compiled) {declaration : Declaration}
    (found : isFoundBy (compiled.filterMap Except.toOption) declaration = true) :
    IsFoundBySome settings declaration := by
  obtain ⟨pattern, listed, occurs⟩ := List.any_eq_true.mp found
  obtain ⟨result, member, given⟩ := List.mem_filterMap.mp listed
  obtain ⟨setting, chosen, tried⟩ := (Outcome.mem_of_mapM ok).mp member
  cases result with
  | error message => cases given
  | ok other =>
    cases given
    exact ⟨setting, chosen, pattern, ofSetting_of_tryCompile tried, by simpa using occurs⟩

theorem isFoundBy_append (earlier later : List Pattern) (declaration : Declaration) :
    isFoundBy (earlier ++ later) declaration = (isFoundBy earlier declaration || isFoundBy later declaration) :=
  List.any_append

theorem isExposed_append {earlier : List Pattern} {declaration : Declaration} (later : List Pattern)
    (exposed : isExposed config earlier declaration = true) :
    isExposed config (earlier ++ later) declaration = true := by
  simp only [isExposed, isTelling, isFoundBy_append, Bool.and_eq_true, Bool.or_eq_true] at exposed ⊢
  obtain ⟨⟨eligible, telling⟩, real⟩ := exposed
  refine ⟨⟨eligible, ?_⟩, real⟩
  rcases telling with (signed | found) | marked
  · exact .inl (.inl signed)
  · exact .inl (.inr (.inl found))
  · exact .inr marked

theorem isFoundBy_of_isExposed_append {earlier later : List Pattern} {declaration : Declaration}
    (before : isExposed config earlier declaration = false)
    (after : isExposed config (earlier ++ later) declaration = true) : isFoundBy later declaration = true := by
  by_contra unfound
  have same : isExposed config (earlier ++ later) declaration = isExposed config earlier declaration := by
    simp only [isExposed, isTelling, isFoundBy_append, Bool.eq_false_iff.mpr unfound, Bool.or_false]
  rw [same, before] at after
  cases after

theorem issues_of_compiled {compiled : List (Except String Pattern)}
    (ok : config.secretPatterns.mapM Pattern.tryCompile = .ok compiled) (declared : List Declaration) :
    issues declared config = .ok (issuesWith (compiled.filterMap Except.toOption) declared config) := by
  rw [issues, Config.secretExpressions, ok]
  rfl

/-- Patterns that are added to the configured ones add issues only, and the new ones are about variables that an added
pattern finds. Settings that are no patterns stand in the way of neither. -/
theorem issues_widen (survivable : ∀ setting ∈ patterns ++ further, Pattern.IsSurvivable setting)
    (declared : List Declaration) (config : Config) :
    ∃ before after, issues declared { config with secretPatterns := patterns } = .ok before ∧
      issues declared { config with secretPatterns := patterns ++ further } = .ok after ∧ before.Sublist after ∧
      Widens (fun issue => ∃ declaration ∈ declared, issue = ofDeclaration declaration ∧
        IsFoundBySome further declaration) before after := by
  simp only [← Pattern.tryCompile_returns, List.forall_mem_append, ← Outcome.mapM_returns] at survivable
  obtain ⟨⟨compiled, ok⟩, ⟨added, ok'⟩⟩ := survivable
  have both : (patterns ++ further).mapM Pattern.tryCompile = .ok (compiled ++ added) := by
    rw [List.mapM_append, ok, ok']
    rfl
  refine ⟨_, _, issues_of_compiled ok declared, issues_of_compiled both declared, ?_⟩
  refine (and_iff_right_of_imp Widens.sublist).mpr ?_
  rw [List.filterMap_append]
  apply widens_filter
  · intro declaration _ exposed
    exact isExposed_append _ exposed
  · intro declaration member unexposed exposed
    have found := isFoundBy_of_isExposed_append unexposed exposed
    exact ⟨declaration, member, rfl, isFoundBy_compiled ok' found⟩

def hashed : Declaration := { name := "INTERNAL_HASH", value := "abc123def", line := 1, file := ".env" }

theorem issues_widen_hashed :
    ∃ before after, issues [hashed] { secretPatterns := ["^MYCORP_"] } = .ok before ∧
      issues [hashed] { secretPatterns := ["^MYCORP_", "(unclosed", "HASH"] } = .ok after ∧ before.Sublist after ∧
      Widens (fun issue => ∃ declaration ∈ [hashed], issue = ofDeclaration declaration ∧
        IsFoundBySome ["(unclosed", "HASH"] declaration) before after := by
  have compiled : (["^MYCORP_", "(unclosed", "HASH"].mapM Pattern.tryCompile).toBool = true := by decide +kernel
  have survivable : ∀ setting ∈ ["^MYCORP_"] ++ ["(unclosed", "HASH"], Pattern.IsSurvivable setting := by
    simp only [← Pattern.tryCompile_returns, ← Outcome.mapM_returns]
    cases tried : ["^MYCORP_", "(unclosed", "HASH"].mapM Pattern.tryCompile with
    | ok found => exact ⟨found, tried⟩
    | error failure =>
      rw [tried] at compiled
      cases compiled
  exact issues_widen survivable [hashed] {}

end Exposure
end EnvAudit
