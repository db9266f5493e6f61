import EnvAudit.Proofs.CommandLine.Settled
import EnvAudit.Proofs.CommandLine.Sync
import EnvAudit.Proofs.Declaration.Layers
import EnvAudit.Proofs.Template.Masking

/-! What the command that makes a template tells of the values of variables. A change of one value shows in the text
exactly when it changes what the template shows for this variable. A variable that the parser takes for a secret both
times shows nothing. Of the others, numbers and truth values stand there as they are, whatever a rule or a pattern of
the configuration says about them. -/
namespace EnvAudit
open Logged Declaration

namespace Template

/-- Whether a template shows the value of a variable as it is. -/
structure IsCopied (declaration : Declaration) : Prop where
  unflagged : declaration.isSecret = false
  other : namesUrl declaration.name = false
  harmless : isHarmless declaration.value = true

theorem IsCopied.shownValue {declaration : Declaration} (copied : IsCopied declaration) :
    shownValue true declaration = declaration.value := by
  rw [Template.shownValue]
  by_cases empty : declaration.value = ""
  · simp [empty]
  · simp [empty, copied.unflagged, example?, copied.other, copied.harmless]

theorem shownValue_of_isSecret {declaration : Declaration} (flagged : declaration.isSecret = true) :
    shownValue true declaration = "" := by
  simp [shownValue, flagged]

end Template

namespace CommandLine

def addNew (kept : List Declaration) (next : Declaration) : List Declaration :=
  if declares kept next.name then kept else kept ++ [next]

theorem foldl_addNew_of_nodup {kept items : List Declaration} (unique : (names (kept ++ items)).Nodup) :
    items.foldl addNew kept = kept ++ items := by
  induction items generalizing kept with
  | nil => simp
  | cons next items ih =>
    have new : declares kept next.name = false := by
      rw [names, List.map_append, List.map_cons] at unique
      have apart := (List.nodup_append.mp unique).2.2
      rw [declares, Bool.eq_false_iff, ne_eq, List.contains_iff_mem]
      exact fun known => apart _ known _ List.mem_cons_self rfl
    have grouped : kept ++ next :: items = (kept ++ [next]) ++ items := by simp
    rw [grouped] at unique ⊢
    rw [List.foldl_cons, addNew, new, if_neg Bool.false_ne_true, ih unique]

theorem foldl_addNew_congr {kept kept' : List Declaration} (same : names kept = names kept')
    (items : List Declaration) :
    ∃ more, items.foldl addNew kept = kept ++ more ∧ items.foldl addNew kept' = kept' ++ more := by
  induction items generalizing kept kept' with
  | nil => exact ⟨[], by simp, by simp⟩
  | cons next items ih =>
    have known : declares kept next.name = declares kept' next.name := by rw [declares, declares, same]
    rw [List.foldl_cons, List.foldl_cons, addNew, addNew, ← known]
    split
    · exact ih same
    · have extended : names (kept ++ [next]) = names (kept' ++ [next]) := by
        rw [names, names, List.map_append, List.map_append]
        exact congrArg (· ++ _) same
      obtain ⟨more, first, second⟩ := ih extended
      exact ⟨next :: more, by simpa using first, by simpa using second⟩

variable {declaration changed : Declaration} {findings findings' : Findings}

def usedVariables (usages : List Usage) : List Declaration :=
  (usages.filter Usage.isNamed).map fun usage =>
    { name := usage.name, value := "", line := usage.line, file := usage.file }

theorem templateVariables_eq (unique : (names findings.declared).Nodup) :
    templateVariables findings = (usedVariables findings.usages).foldl addNew findings.declared := by
  have merged : templateVariables findings = (findings.declared ++ usedVariables findings.usages).foldl addNew [] := rfl
  have whole : findings.declared.foldl addNew [] = findings.declared :=
    foldl_addNew_of_nodup (by rwa [List.nil_append])
  rw [merged, List.foldl_append, whole]

theorem templateVariables_apart (apart : Apart declaration changed findings.declared findings'.declared)
    (named : declaration.name = changed.name) (unique : (names findings.declared).Nodup)
    (usages : findings.usages = findings'.usages) :
    Apart declaration changed (templateVariables findings) (templateVariables findings') := by
  have same : names findings.declared = names findings'.declared := apart.map_eq named
  obtain ⟨more, first, second⟩ := foldl_addNew_congr same (usedVariables findings.usages)
  rw [templateVariables_eq unique, templateVariables_eq (same ▸ unique), ← usages, first, second]
  exact apart.append_right more

variable {disk disk' : Disk} {target target' : Target} {config config' : Config}

theorem declared_of_audit (audited : Gives (Project.audit disk config) findings) :
    (names findings.declared).Nodup ∧
      ∀ d ∈ findings.declared, d.isSecret = Secret.isLikely d.name d.value [] := by
  obtain ⟨found, _, _, _, read, _, declared, _⟩ := Project.parts_of_audit audited
  rw [declared]
  exact ⟨nodup_names_readFiles read, fun d member => isSecret_of_readFiles read member⟩

theorem carries_of_audit {writes : Bool} {output : Option String} {ending : Ending}
    (loaded : Gives (loadTarget disk target) config) (audited : Gives (Project.audit disk config) findings)
    (gives : Gives (sync disk target writes output) ending) (succeeded : ending.code = 0) :
    ending.Carries (Template.generate {} (templateVariables findings)) := by
  obtain ⟨own, told, loaded', audited', carries⟩ := carries_of_sync gives succeeded
  cases (loadTarget_settled disk target).eq loaded loaded'
  cases (Project.audit_settled disk config).eq audited audited'
  exact carries

/-- Two projects that read the same variables and declare the same but for one value get the same template exactly
when it shows the same for this value. It does where the built-in tables take both values for secrets. Where they take
neither for one, two numbers or truth values are told apart. No rule and no pattern of a configuration plays a part. -/
theorem sync_masks_iff {writes writes' : Bool} {output output' : Option String} {ending ending' : Ending}
    (loaded : Gives (loadTarget disk target) config) (audited : Gives (Project.audit disk config) findings)
    (gives : Gives (sync disk target writes output) ending) (succeeded : ending.code = 0)
    (loaded' : Gives (loadTarget disk' target') config') (audited' : Gives (Project.audit disk' config') findings')
    (gives' : Gives (sync disk' target' writes' output') ending') (succeeded' : ending'.code = 0)
    (apart : Apart declaration changed findings.declared findings'.declared) (named : declaration.name = changed.name)
    (usages : findings.usages = findings'.usages) :
    ∃ text text', ending.Carries text ∧ ending'.Carries text' ∧
      (text = text' ↔ Template.shownValue true declaration = Template.shownValue true changed) ∧
      (Secret.isLikely declaration.name declaration.value [] = true →
        Secret.isLikely changed.name changed.value [] = true → text = text') ∧
      (Template.IsCopied declaration → Template.IsCopied changed →
        (text = text' ↔ declaration.value = changed.value)) := by
  have listing := templateVariables_apart apart named (declared_of_audit audited).1 usages
  have same := Template.generate_eq_iff listing named {}
  have listed : changed ∈ findings'.declared := by
    obtain ⟨before, after, _, second⟩ := apart
    simp [second]
  have flagged := (declared_of_audit audited).2 declaration apart.mem
  have flagged' := (declared_of_audit audited').2 changed listed
  refine ⟨_, _, carries_of_audit loaded audited gives succeeded, carries_of_audit loaded' audited' gives' succeeded',
    same, ?_, ?_⟩
  · intro secret secret'
    rw [same, Template.shownValue_of_isSecret (flagged.trans secret),
      Template.shownValue_of_isSecret (flagged'.trans secret')]
  · intro copied copied'
    rw [same]
    exact iff_of_eq (congrArg₂ (· = ·) copied.shownValue copied'.shownValue)

def pinDisk (value : String) : Disk where
  tree := .directory
    [("env-doctor.json", .file (Text.encodeUtf8
        "\x7b\"envFiles\":[\"/.env\"],\"variables\":\x7b\"PIN\":\x7b\"secret\":true\x7d\x7d\x7d".toList)),
      (".env", .file (Text.encodeUtf8 ("PIN=" ++ value).toList))]
  working := ⟨"/", []⟩

def pin (value : String) : Declaration where
  name := "PIN"
  value
  line := 1
  file := "/.env"
  shape := some .number
  raw := some ("PIN=" ++ value)

def IsPinned (value : String) (config : Config) (findings : Findings) (ending : Ending) : Prop :=
  (loadTarget (pinDisk value) listingTarget).outcome.1 = .ok config ∧
  (Project.audit (pinDisk value) config).outcome.1 = .ok findings ∧
  (sync (pinDisk value) listingTarget false none).outcome.1 = .ok ending ∧
  Exposure.isMarked config "PIN" = true ∧ findings.declared = [pin value] ∧ findings.usages = [] ∧ ending.code = 0

def checkPinned (value : String) : Except Failure Bool := do
  let config ← (loadTarget (pinDisk value) listingTarget).outcome.1
  let findings ← (Project.audit (pinDisk value) config).outcome.1
  let ending ← (sync (pinDisk value) listingTarget false none).outcome.1
  return Exposure.isMarked config "PIN" && decide (findings.declared = [pin value]) &&
    decide (findings.usages = []) && ending.code == 0

theorem isPinned_of_check {value : String} (checked : (checkPinned value).toOption = some true) :
    ∃ config findings ending, IsPinned value config findings ending := by
  have checked := Outcome.eq_ok_of_toOption checked
  obtain ⟨config, loaded, checked⟩ := Outcome.bind_eq_ok.mp checked
  obtain ⟨findings, audited, checked⟩ := Outcome.bind_eq_ok.mp checked
  obtain ⟨ending, made, checked⟩ := Outcome.bind_eq_ok.mp checked
  injection checked with checked
  simp only [Bool.and_eq_true, decide_eq_true_eq, beq_iff_eq] at checked
  obtain ⟨⟨⟨marked, declared⟩, used⟩, succeeded⟩ := checked
  exact ⟨config, findings, ending, loaded, audited, made, marked, declared, used, succeeded⟩

theorem sync_masks_iff_pin : ∃ config config' findings findings' ending ending' text text',
    IsPinned "1234" config findings ending ∧ IsPinned "5678" config' findings' ending' ∧
    ending.Carries text ∧ ending'.Carries text' ∧ text ≠ text' := by
  have checked : (checkPinned "1234").toOption = some true := by decide +kernel
  have checked' : (checkPinned "5678").toOption = some true := by decide +kernel
  obtain ⟨config, findings, ending, pinned⟩ := isPinned_of_check checked
  obtain ⟨config', findings', ending', pinned'⟩ := isPinned_of_check checked'
  have ⟨loaded, audited, made, _, declared, used, succeeded⟩ := pinned
  have ⟨loaded', audited', made', _, declared', used', succeeded'⟩ := pinned'
  have apart : Apart (pin "1234") (pin "5678") findings.declared findings'.declared := ⟨[], [], declared, declared'⟩
  obtain ⟨text, text', carries, carries', _, _, copied⟩ := sync_masks_iff (gives_of_outcome loaded)
    (gives_of_outcome audited) (gives_of_outcome made) succeeded (gives_of_outcome loaded') (gives_of_outcome audited')
    (gives_of_outcome made') succeeded' apart rfl (used.trans used'.symm)
  have changed := copied ⟨rfl, by decide, by decide⟩ ⟨rfl, by decide, by decide⟩
  refine ⟨config, config', findings, findings', ending, ending', text, text', pinned, pinned', carries, carries', ?_⟩
  rw [ne_eq, changed]
  decide

end CommandLine
end EnvAudit
