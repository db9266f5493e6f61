import EnvAudit.Proofs.Audit.Completion

/-! What single analyses find about some of the names. When two inputs agree on the names that are kept, an analysis
finds the same about these names in both, in the same order, whatever the inputs say about the others. -/
namespace EnvAudit

section Lists
variable {α : Type} (key : α → String) {keep : String → Bool}

theorem contains_filter_key {items : List α} {name : String} (kept : keep name = true) :
    ((items.filter (keep <| key ·)).map key).contains name = (items.map key).contains name := by
  rw [Bool.eq_iff_iff, List.contains_iff_mem, List.contains_iff_mem, List.mem_map, List.mem_map]
  constructor
  · rintro ⟨item, member, same⟩
    exact ⟨item, (List.mem_filter.mp member).1, same⟩
  · rintro ⟨item, member, rfl⟩
    exact ⟨item, List.mem_filter.mpr ⟨member, kept⟩, rfl⟩

theorem contains_key_congr {items others : List α} {name : String} (kept : keep name = true)
    (same : items.filter (keep <| key ·) = others.filter (keep <| key ·)) :
    (items.map key).contains name = (others.map key).contains name := by
  rw [← contains_filter_key key kept, same, contains_filter_key key kept]

theorem restrict_shown {items others : List α} {shown shown' : α → Bool} {make make' : α → Issue}
    (named : ∀ item, (make item).name = key item) (named' : ∀ item, (make' item).name = key item)
    (same : items.filter (keep <| key ·) = others.filter (keep <| key ·))
    (shows : ∀ item, keep (key item) = true → shown item = shown' item)
    (makes : ∀ item, keep (key item) = true → make item = make' item) :
    ((items.filter shown).map make).filter (keep ·.name) = ((others.filter shown').map make').filter (keep ·.name) := by
  simp only [List.filter_map, Function.comp_def, named, named']
  rw [List.filter_comm, same, List.filter_comm (keep <| key ·) shown']
  have kept {item : α} (member : item ∈ others.filter (keep <| key ·)) : keep (key item) = true :=
    (List.mem_filter.mp member).2
  rw [List.filter_congr fun item member => shows item (kept member)]
  exact List.map_congr_left fun item member => makes item (kept (List.mem_filter.mp member).1)

end Lists

theorem Declaration.declares_congr (keep : String → Bool) {declarations others : List Declaration} {name : String}
    (kept : keep name = true) (same : declarations.filter (keep ·.name) = others.filter (keep ·.name)) :
    declares declarations name = declares others name :=
  contains_key_congr Declaration.name kept same

theorem Usage.contains_names_congr (keep : String → Bool) {usages others : List Usage} {name : String}
    (kept : keep name = true) (same : usages.filter (keep ·.name) = others.filter (keep ·.name)) :
    (names usages).contains name = (names others).contains name := by
  apply contains_key_congr Usage.name kept
  rw [List.filter_comm, same, List.filter_comm]

namespace Missing

def isReportable (declared : List Declaration) (config : Config) (name : String) : Bool :=
  name != dynamicName && isOpen declared config name && !hasDefault config name

variable {declared declared' : List Declaration} {config config' : Config}

theorem firstReads_cons (usage : Usage) (rest : List Usage) (reported : List String) :
    firstReads declared config (usage :: rest) reported =
      if isReportable declared config usage.name && !reported.contains usage.name then
        usage :: firstReads declared config rest (usage.name :: reported)
      else firstReads declared config rest reported := by
  rw [firstReads, isReportable, Usage.isNamed]
  congr 1
  rw [Bool.and_assoc, Bool.and_assoc, Bool.and_assoc, Bool.and_assoc]
  congr 2
  rw [Bool.and_comm, Bool.and_assoc]

theorem of_mem_firstReads {used : List Usage} {reported : List String} {usage : Usage}
    (member : usage ∈ firstReads declared config used reported) : isReportable declared config usage.name = true := by
  induction used generalizing reported with
  | nil => simp [firstReads] at member
  | cons first rest ih =>
    rw [firstReads_cons] at member
    split at member
    · next shown =>
      rcases List.mem_cons.mp member with rfl | later
      · exact (Bool.and_eq_true_iff.mp shown).1
      · exact ih later
    · exact ih member

theorem firstReads_congr {used : List Usage} {reported reported' : List String}
    (reportable : ∀ usage ∈ used, isReportable declared config usage.name = isReportable declared' config' usage.name)
    (known : ∀ usage ∈ used, reported.contains usage.name = reported'.contains usage.name) :
    firstReads declared config used reported = firstReads declared' config' used reported' := by
  induction used generalizing reported reported' with
  | nil => rfl
  | cons first rest ih =>
    rw [List.forall_mem_cons] at reportable known
    rw [firstReads_cons, firstReads_cons, reportable.1, known.1]
    split
    · congr 1
      apply ih reportable.2
      intro usage member
      rw [List.contains_cons, List.contains_cons, known.2 usage member]
    · exact ih reportable.2 known.2

/-- Reads of some names are reported as though code read no others: what is reported already only counts for its own
name. -/
theorem firstReads_filter {keep : String → Bool} (used : List Usage) (reported : List String) :
    (firstReads declared config used reported).filter (keep ·.name) =
      firstReads declared config (used.filter (keep ·.name)) reported := by
  induction used generalizing reported with
  | nil => rfl
  | cons first rest ih =>
    rw [firstReads_cons]
    by_cases kept : keep first.name = true
    · have selected : (first :: rest).filter (keep ·.name) = first :: rest.filter (keep ·.name) := by
        rw [List.filter_cons, if_pos kept]
      rw [selected, firstReads_cons]
      split
      · rw [List.filter_cons, if_pos kept, ih]
      · exact ih reported
    · have dropped : (first :: rest).filter (keep ·.name) = rest.filter (keep ·.name) := by
        rw [List.filter_cons, if_neg kept]
      rw [dropped]
      split
      -- The read that is left out is noted as reported, but under a name that no kept read has.
      · rw [List.filter_cons, if_neg kept, ih]
        apply firstReads_congr
        · intro usage member
          rfl
        · intro usage member
          have other : usage.name ≠ first.name := fun same => kept (same ▸ (List.mem_filter.mp member).2)
          simp [other]
      · exact ih reported

theorem restrict_issues (keep : String → Bool) {used used' : List Usage}
    (usages : used.filter (keep ·.name) = used'.filter (keep ·.name))
    (open_same : ∀ name, keep name = true → isOpen declared config name = isOpen declared' config' name)
    (rule : ∀ name, keep name = true → config.rule? name = config'.rule? name)
    (rules : config.rules.filter (keep ·.1) = config'.rules.filter (keep ·.1)) :
    (issues declared used config).filter (keep ·.name) = (issues declared' used' config').filter (keep ·.name) := by
  have reportable (name : String) (kept : keep name = true) :
      isReportable declared config name = isReportable declared' config' name := by
    rw [isReportable, isReportable, hasDefault, hasDefault, open_same name kept, rule name kept]
  have reads : (firstReads declared config used []).filter (keep ·.name) =
      (firstReads declared' config' used' []).filter (keep ·.name) := by
    rw [firstReads_filter, firstReads_filter, usages]
    exact firstReads_congr (fun usage member => reportable usage.name (List.mem_filter.mp member).2)
      fun usage member => rfl
  have required (name : String) (kept : keep name = true) :
      isRequired config name = isRequired config' name := by
    rw [isRequired, isRequired, rule name kept]
  rw [issues, issues, List.filter_append, List.filter_append]
  congr 1
  · rw [List.filter_map, List.filter_map]
    simp only [Function.comp_def, ofUsage]
    rw [reads]
    apply List.map_congr_left
    intro usage member
    rw [ofUsage, ofUsage, required usage.name (List.mem_filter.mp member).2]
  · simp only [requiredNames, List.map_map]
    apply restrict_shown Prod.fst (fun _ => rfl) (fun _ => rfl) rules
    · intro entry kept
      rw [contains_key_congr Usage.name kept reads, open_same entry.1 kept]
    · intro entry _
      rfl

end Missing

theorem Unused.restrict_issues (keep : String → Bool) {declared declared' : List Declaration} {used used' : List Usage}
    {config config' : Config} {framework framework' : Option Framework}
    (declarations : declared.filter (keep ·.name) = declared'.filter (keep ·.name))
    (shows : ∀ declaration, keep declaration.name = true →
      isUnused used config framework declaration = isUnused used' config' framework' declaration) :
    (issues declared used config framework).filter (keep ·.name) =
      (issues declared' used' config' framework').filter (keep ·.name) :=
  restrict_shown Declaration.name (fun _ => rfl) (fun _ => rfl) declarations shows fun _ _ => rfl

namespace Exposure

theorem issues_eq_ok {declared : List Declaration} {config : Config} {found : List Issue} :
    issues declared config = .ok found ↔
      ∃ further, config.secretExpressions = .ok further ∧ found = issuesWith further declared config := by
  rw [issues, Outcome.bind_eq_ok]
  constructor
  · rintro ⟨further, compiled, same⟩
    cases same
    exact ⟨further, compiled, rfl⟩
  · rintro ⟨further, compiled, rfl⟩
    exact ⟨further, compiled, rfl⟩

theorem restrict_issues (keep : String → Bool) {declared declared' : List Declaration} {further : List Pattern}
    {config config' : Config}
    (declarations : declared.filter (keep ·.name) = declared'.filter (keep ·.name))
    (shows : ∀ declaration, keep declaration.name = true →
      isExposed config further declaration = isExposed config' further declaration) :
    (issuesWith further declared config).filter (keep ·.name) =
      (issuesWith further declared' config').filter (keep ·.name) :=
  restrict_shown Declaration.name (fun _ => rfl) (fun _ => rfl) declarations shows fun _ _ => rfl

end Exposure

namespace Drift

theorem restrict_issues (keep : String → Bool) {declared declared' template template' : List Declaration}
    {templateFile : String} {ignore ignore' : List String}
    (declarations : declared.filter (keep ·.name) = declared'.filter (keep ·.name))
    (entries : template.filter (keep ·.name) = template'.filter (keep ·.name))
    (ignored : ∀ name, keep name = true →
      Ignore.silences ignore name .syncDrift = Ignore.silences ignore' name .syncDrift) :
    (compare declared template templateFile ignore).issues.filter (keep ·.name) =
      (compare declared' template' templateFile ignore').issues.filter (keep ·.name) := by
  simp only [compare, lacking, List.filter_append]
  congr 1
  · apply restrict_shown Declaration.name (fun _ => rfl) (fun _ => rfl) declarations
    · intro declaration kept
      rw [Declaration.declares_congr keep kept entries, ignored declaration.name kept]
    · intro declaration _
      rfl
  · apply restrict_shown Declaration.name (fun _ => rfl) (fun _ => rfl) entries
    · intro entry kept
      rw [Declaration.declares_congr keep kept declarations, ignored entry.name kept]
    · intro entry _
      rfl

end Drift

namespace Mismatch
variable {declared declared' : List Declaration} {used used' : List Usage} {config config' : Config}

structure IsAbout (name : String) (issue : Issue) : Prop where
  name : issue.name = name
  kind : issue.kind = .typeMismatch ∨ issue.kind = .invalidValue

theorem ofViolation_isAbout {declaration : Declaration} {shown : String} {violation : Violation} {issue : Issue}
    (made : ofViolation declaration shown violation = .ok issue) : IsAbout declaration.name issue := by
  cases violation with
  | type type =>
    rw [ofViolation] at made
    split at made
    · cases made
    · cases made
      exact ⟨rfl, .inl rfl⟩
  | pattern pattern =>
    cases made
    exact ⟨rfl, .inr rfl⟩
  | enum allowed =>
    cases made
    exact ⟨rfl, .inr rfl⟩

theorem byRule?_isAbout {declaration : Declaration} {rule : Rule} {issue : Issue}
    (made : byRule? declaration rule = .ok (some issue)) : IsAbout declaration.name issue := by
  rw [byRule?, Outcome.bind_eq_ok] at made
  obtain ⟨violation, _, rest⟩ := made
  cases violation with
  | none => cases rest
  | some violation =>
    obtain ⟨value, violated, same⟩ := Outcome.bind_eq_ok.mp rest
    cases same
    exact ofViolation_isAbout violated

theorem byUsages?_isAbout {declaration : Declaration} {usages : List Usage} {issue : Issue}
    (made : byUsages? declaration usages = .ok (some issue)) : IsAbout declaration.name issue := by
  unfold byUsages? at made
  split at made
  · next first others shape suggested =>
    split at made
    · cases made
    · obtain ⟨complaint, _, rest⟩ := Outcome.bind_eq_ok.mp made
      cases complaint with
      | none => cases rest
      | some complaint =>
        cases rest
        exact ⟨rfl, .inl rfl⟩
  · cases made

theorem name_of_subject? {name : String} {declaration : Declaration}
    (subject : subject? declared config name = some declaration) : declaration.name = name := by
  rw [subject?] at subject
  split at subject
  · cases subject
  · simpa using List.find?_some subject

theorem ofName?_isAbout {name : String} {issue : Issue}
    (made : ofName? declared used config name = .ok (some issue)) : IsAbout name issue := by
  rw [ofName?] at made
  split at made
  · cases made
  · next declaration subject =>
    rw [← name_of_subject? subject]
    split at made
    · exact byRule?_isAbout made
    · exact byUsages?_isAbout made

def made (outcome : Except Failure (Option Issue)) : List Issue :=
  match outcome with
  | .ok (some issue) => [issue]
  | _ => []

theorem filterMap_results {names : List String} {results : List (Option Issue)} {keep : String → Bool}
    (related : List.Forall₂ (fun name result => ofName? declared used config name = .ok result) names results) :
    (results.filterMap id).filter (keep ·.name) =
      (names.filter keep).flatMap fun name => made (ofName? declared used config name) := by
  induction related with
  | nil => rfl
  | @cons name result names results head tail ih =>
    cases result with
    | none =>
      rw [List.filterMap_cons_none rfl, ih, List.filter_cons]
      split
      · rw [List.flatMap_cons, head]
        rfl
      · rfl
    | some issue =>
      have first : (some issue :: results).filterMap id = issue :: results.filterMap id := rfl
      rw [first, List.filter_cons, List.filter_cons, (ofName?_isAbout head).name, ih]
      split
      · rw [List.flatMap_cons, head]
        rfl
      · rfl

theorem readNames_filter (used : List Usage) (keep : String → Bool) :
    readNames (used.filter (keep ·.name)) = (readNames used).filter keep := by
  rw [readNames, readNames, ← Text.distinct_filter, Usage.names, Usage.names, List.filter_comm, List.filter_map]
  rfl

theorem issues_filter (keep : String → Bool) {found : List Issue} (ok : issues declared used config = .ok found) :
    found.filter (keep ·.name) =
      ((readNames used).filter keep).flatMap fun name => made (ofName? declared used config name) := by
  obtain ⟨results, checked, same⟩ := Outcome.bind_eq_ok.mp ok
  cases same
  exact filterMap_results (Outcome.mapM_eq_ok.mp checked)

theorem restrict_issues (keep : String → Bool) {found found' : List Issue}
    (usages : used.filter (keep ·.name) = used'.filter (keep ·.name))
    (checks : ∀ name, keep name = true → ofName? declared used config name = ofName? declared' used' config' name)
    (ok : issues declared used config = .ok found) (ok' : issues declared' used' config' = .ok found') :
    found.filter (keep ·.name) = found'.filter (keep ·.name) := by
  rw [issues_filter keep ok, issues_filter keep ok', ← readNames_filter, ← readNames_filter, usages]
  apply List.flatMap_congr
  intro name member
  rw [readNames_filter] at member
  rw [checks name (List.mem_filter.mp member).2]

end Mismatch
end EnvAudit
