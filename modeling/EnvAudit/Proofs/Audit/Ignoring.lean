import EnvAudit.Proofs.Audit.Locality

/-! What a further ignore entry does to an audit: it takes away the issues that it silences and leaves all others as
they are. In particular no silenced read shows up again as a required variable, and no later read takes the place of
a silenced one. -/
namespace EnvAudit

theorem Ignore.silences_append (entries others : List String) (name : String) (topic : Topic) :
    silences (entries ++ others) name topic = (silences entries name topic || silences others name topic) :=
  List.any_append

def IssueKind.topic? : IssueKind → Option Topic
  | .missing => some .missing
  | .unused => some .unused
  | .typeMismatch | .invalidValue => some .typeMismatch
  | .syncDrift => some .syncDrift
  | .secretExposed => some .secret
  | .other _ => none

namespace Issue

def isSilencedBy (entry : String) (issue : Issue) : Bool :=
  issue.kind.topic?.any (Ignore.silences [entry] issue.name)

structure IsUnder (ignore : List String) (topic : Topic) (issue : Issue) : Prop where
  kind : issue.kind.topic? = some topic
  heard : Ignore.silences ignore issue.name topic = false

theorem filter_unsilenced {found found' : List Issue} {ignore ignore' : List String} {entry : String} {topic : Topic}
    (before : ∀ issue ∈ found, IsUnder ignore topic issue)
    (after : ∀ issue ∈ found', IsUnder (ignore' ++ [entry]) topic issue)
    (same : found.filter (!Ignore.silences [entry] ·.name topic) =
      found'.filter (!Ignore.silences [entry] ·.name topic)) :
    found.filter (!·.isSilencedBy entry) = found' := by
  have judged : found.filter (!·.isSilencedBy entry) = found.filter (!Ignore.silences [entry] ·.name topic) := by
    apply List.filter_congr
    intro issue member
    rw [isSilencedBy, (before issue member).kind, Option.any_some]
  rw [judged, same, List.filter_eq_self]
  intro issue member
  have heard := (after issue member).heard
  rw [Ignore.silences_append, Bool.or_eq_false_iff] at heard
  rw [heard.2, Bool.not_false]

end Issue

namespace Missing

theorem of_mem_issues {declared : List Declaration} {used : List Usage} {config : Config} {issue : Issue}
    (member : issue ∈ issues declared used config) : issue.IsUnder config.ignore .missing := by
  have heard {name : String} (shown : isOpen declared config name = true) :
      Ignore.silences config.ignore name .missing = false := by
    simpa using (Bool.and_eq_true_iff.mp shown).2
  rw [issues, List.mem_append, List.mem_map, List.mem_map] at member
  rcases member with ⟨usage, read, rfl⟩ | ⟨name, required, rfl⟩
  · have reportable := of_mem_firstReads read
    rw [isReportable, Bool.and_eq_true, Bool.and_eq_true] at reportable
    exact ⟨rfl, heard reportable.1.2⟩
  · obtain ⟨entry, listed, rfl⟩ := List.mem_map.mp required
    have shown := (List.mem_filter.mp listed).2
    exact ⟨rfl, heard (Bool.and_eq_true_iff.mp shown).2⟩

end Missing

theorem Unused.of_mem_issues {declared : List Declaration} {used : List Usage} {config : Config}
    {framework : Option Framework} {issue : Issue} (member : issue ∈ issues declared used config framework) :
    issue.IsUnder config.ignore .unused := by
  obtain ⟨declaration, listed, rfl⟩ := List.mem_map.mp member
  have shown := (List.mem_filter.mp listed).2
  simp only [isUnused, Bool.and_eq_true, Bool.not_eq_true'] at shown
  exact ⟨rfl, shown.1.2⟩

theorem Exposure.of_mem_issuesWith {further : List Pattern} {declared : List Declaration} {config : Config}
    {issue : Issue} (member : issue ∈ issuesWith further declared config) : issue.IsUnder config.ignore .secret := by
  obtain ⟨declaration, listed, rfl⟩ := List.mem_map.mp member
  have shown := (List.mem_filter.mp listed).2
  simp only [isExposed, Bool.and_eq_true, Bool.not_eq_true'] at shown
  exact ⟨rfl, shown.1.1.2⟩

theorem Drift.of_mem_issues {declared template : List Declaration} {templateFile : String} {ignore : List String}
    {issue : Issue} (member : issue ∈ (compare declared template templateFile ignore).issues) :
    issue.IsUnder ignore .syncDrift := by
  have heard {here there : List Declaration} {d : Declaration} (listed : d ∈ lacking ignore here there) :
      Ignore.silences ignore d.name .syncDrift = false := by
    simpa using (Bool.and_eq_true_iff.mp (List.mem_filter.mp listed).2).2
  rw [compare, List.mem_append, List.mem_map, List.mem_map] at member
  rcases member with ⟨declaration, added, rfl⟩ | ⟨entry, removed, rfl⟩
  · exact ⟨rfl, heard added⟩
  · exact ⟨rfl, heard removed⟩

namespace Mismatch
variable {declared : List Declaration} {used : List Usage} {config : Config}

theorem heard_of_ofName? {name : String} {issue : Issue} (made : ofName? declared used config name = .ok (some issue)) :
    Ignore.silences config.ignore name .typeMismatch = false := by
  rw [Bool.eq_false_iff]
  intro silenced
  rw [ofName?, subject?, if_pos silenced] at made
  cases made

theorem of_mem_issues {found : List Issue} (ok : issues declared used config = .ok found) {issue : Issue}
    (member : issue ∈ found) : issue.IsUnder config.ignore .typeMismatch := by
  -- Keeping every name turns the restriction into a description of the whole list.
  have all := issues_filter (fun _ => true) ok
  rw [List.filter_true, List.filter_true] at all
  rw [all, List.mem_flatMap] at member
  obtain ⟨name, _, member⟩ := member
  unfold made at member
  split at member
  · next other result =>
    cases List.mem_singleton.mp member
    have about := ofName?_isAbout result
    refine ⟨?_, about.name ▸ heard_of_ofName? result⟩
    rcases about.kind with kind | kind <;> rw [kind] <;> rfl
  · cases member

end Mismatch

namespace Audit.Input

def ignoring (entry : String) (input : Input) : Input :=
  { input with config := { input.config with ignore := input.config.ignore ++ [entry] } }

variable {input : Input} {entry : String}

theorem silences_ignoring {name : String} {topic : Topic} (heard : (!Ignore.silences [entry] name topic) = true) :
    Ignore.silences (input.ignoring entry).config.ignore name topic =
      Ignore.silences input.config.ignore name topic := by
  have unmatched : Ignore.silences [entry] name topic = false := by simpa using heard
  rw [ignoring, Ignore.silences_append, unmatched, Bool.or_false]

theorem subject?_ignoring (name : String) : Mismatch.subject? input.declared (input.ignoring entry).config name =
    if Ignore.silences [entry] name .typeMismatch then none
    else Mismatch.subject? input.declared input.config name := by
  rw [Mismatch.subject?, Mismatch.subject?, ignoring, Ignore.silences_append]
  by_cases silenced : Ignore.silences [entry] name .typeMismatch = true
  · simp [silenced]
  · simp [silenced]

/-- What would stop the check of a silenced variable does not stop it. -/
theorem isCheckable_ignoring (name : String) :
    Mismatch.IsCheckable input.declared input.used (input.ignoring entry).config name ↔
      (Ignore.silences [entry] name .typeMismatch = false →
        Mismatch.IsCheckable input.declared input.used input.config name) := by
  rw [Mismatch.IsCheckable, subject?_ignoring]
  cases Ignore.silences [entry] name .typeMismatch with
  | true => simp
  | false => simp [Mismatch.IsCheckable]; rfl

theorem missing_ignoring : (Missing.issues input.declared input.used input.config).filter (!·.isSilencedBy entry) =
    Missing.issues input.declared input.used (input.ignoring entry).config := by
  apply Issue.filter_unsilenced (fun _ => Missing.of_mem_issues) (fun _ => Missing.of_mem_issues)
  apply Missing.restrict_issues (!Ignore.silences [entry] · .missing) rfl
  · intro name heard
    rw [Missing.isOpen, Missing.isOpen, silences_ignoring heard]
  · intro name _
    rfl
  · rfl

theorem unused_ignoring :
    (Unused.issues input.declared input.used input.config input.framework).filter (!·.isSilencedBy entry) =
      Unused.issues input.declared input.used (input.ignoring entry).config input.framework := by
  apply Issue.filter_unsilenced (fun _ => Unused.of_mem_issues) (fun _ => Unused.of_mem_issues)
  apply Unused.restrict_issues (!Ignore.silences [entry] · .unused) rfl
  intro declaration heard
  rw [Unused.isUnused, Unused.isUnused, silences_ignoring heard]
  rfl

theorem exposure_ignoring {further : List Pattern} :
    (Exposure.issuesWith further input.declared input.config).filter (!·.isSilencedBy entry) =
      Exposure.issuesWith further input.declared (input.ignoring entry).config := by
  apply Issue.filter_unsilenced (fun _ => Exposure.of_mem_issuesWith) (fun _ => Exposure.of_mem_issuesWith)
  apply Exposure.restrict_issues (!Ignore.silences [entry] · .secret) rfl
  intro declaration heard
  rw [Exposure.isExposed, Exposure.isExposed, silences_ignoring heard]
  rfl

theorem drift_ignoring :
    (driftIssues input.declared input.config input.template).filter (!·.isSilencedBy entry) =
      driftIssues input.declared (input.ignoring entry).config input.template := by
  cases input.template with
  | none => rfl
  | some template =>
    apply Issue.filter_unsilenced (fun _ => Drift.of_mem_issues) (fun _ => Drift.of_mem_issues)
    apply Drift.restrict_issues (!Ignore.silences [entry] · .syncDrift) rfl rfl
    intro name heard
    exact (silences_ignoring heard).symm

theorem mismatch_ignoring {found : List Issue}
    (ok : Mismatch.issues input.declared input.used input.config = .ok found) :
    Mismatch.issues input.declared input.used (input.ignoring entry).config =
      .ok (found.filter (!·.isSilencedBy entry)) := by
  have checkable := Mismatch.issues_returns.mp ⟨found, ok⟩
  obtain ⟨found', ok'⟩ : Returns (Mismatch.issues input.declared input.used (input.ignoring entry).config) :=
    Mismatch.issues_returns.mpr fun name read => (isCheckable_ignoring name).mpr fun _ => checkable name read
  rw [ok', Issue.filter_unsilenced (fun _ => Mismatch.of_mem_issues ok) (fun _ => Mismatch.of_mem_issues ok')]
  apply Mismatch.restrict_issues (!Ignore.silences [entry] · .typeMismatch) rfl _ ok ok'
  intro name heard
  rw [Mismatch.ofName?, Mismatch.ofName?, subject?_ignoring, if_neg (by simpa using heard)]
  rfl

def ofUndeclared : Input where
  used := [{ name := "V", file := "src/index.ts", line := 1, column := 0, access := .direct },
    { name := "W", file := "src/index.ts", line := 2, column := 0, access := .direct }]
  config := { ruleEntries := [("V", .read { required := true })] }

/-- A further ignore entry filters the issues. It can only make an audit return that would not, namely by silencing
every variable whose check would stop it. -/
theorem issues_ignoring (input : Input) (entry : String) :
    (∀ found, input.issues = .ok found →
        (input.ignoring entry).issues = .ok (found.filter (!·.isSilencedBy entry))) ∧
      (Returns (input.ignoring entry).issues ↔
        (∀ setting ∈ input.config.secretPatterns, Pattern.IsSurvivable setting) ∧
          ∀ name ∈ Mismatch.readNames input.used, Ignore.silences [entry] name .typeMismatch = false →
            Mismatch.IsCheckable input.declared input.used input.config name) := by
  constructor
  · intro found ok
    obtain ⟨mismatched, exposed, checked, searched, rfl⟩ := issues_eq_ok.mp ok
    obtain ⟨further, compiled, rfl⟩ := Exposure.issues_eq_ok.mp searched
    refine issues_eq_ok.mpr ⟨_, _, mismatch_ignoring checked, Exposure.issues_eq_ok.mpr ⟨further, compiled, rfl⟩, ?_⟩
    simp only [List.filter_append]
    rw [missing_ignoring, unused_ignoring, exposure_ignoring, drift_ignoring]
    rfl
  · rw [issues_returns]
    constructor
    · rintro ⟨patterns, values⟩
      exact ⟨patterns, fun name read => (isCheckable_ignoring name).mp (values name read)⟩
    · rintro ⟨patterns, values⟩
      exact ⟨patterns, fun name read => (isCheckable_ignoring name).mpr (values name read)⟩

theorem issues_ignoring_ofUndeclared : ∃ found, ofUndeclared.issues = .ok found ∧ found.map (·.name) = ["V", "W"] ∧
    (ofUndeclared.ignoring "missing:V*").issues = .ok (found.filter (!·.isSilencedBy "missing:V*")) ∧
    (found.filter (!·.isSilencedBy "missing:V*")).map (·.name) = ["W"] := by
  refine ⟨_, rfl, rfl, ?_, rfl⟩
  exact (issues_ignoring ofUndeclared "missing:V*").1 _ rfl

/-- Silencing a value that nests too deeply gives issues where there were none to filter. -/
theorem returns_of_silenced_deep_value {value : String} (deep : Json.IsTooDeep value.toList) :
    ¬ Returns (ofValue value).issues ∧ Returns ((ofValue value).ignoring "type-mismatch:W").issues := by
  constructor
  · rw [issues_returns, ofValue_completes, not_not]
    exact deep
  · have silent : ((ofValue value).ignoring "type-mismatch:W").Completes := by
      refine ⟨by simp [ofValue, ignoring], fun name read declaration subject => ?_⟩
      rcases List.mem_pair.mp read with rfl | rfl <;> cases subject
    exact issues_returns.mpr silent

end Audit.Input
end EnvAudit
