import EnvAudit.Proofs.Audit.Restriction

/-! What an issue about a value that does not fit tells of a secret. Apart from the demand that the value violates, it
depends on the masked value only, unless the secret is one by its rule alone: a rule without demands leaves the value to
be judged by its usages, and those who take it for a number are told the value as it stands. -/
namespace EnvAudit.Mismatch

def check (used : List Usage) (config : Config) (declaration : Declaration) : Except Failure (Option Issue) :=
  match activeRule? config declaration.name with
  | some rule => byRule? declaration rule
  | none => byUsages? declaration (usagesOf used declaration.name)

def demand? (config : Config) (name value : String) : Option Violation :=
  match activeRule? config name with
  | some rule => (rule.constraints.violation? value).toOption.join
  | none => none

def IsSecret (config : Config) (declaration : Declaration) : Prop :=
  declaration.isSecret = true ∨ ∃ rule, config.rule? declaration.name = some rule ∧ rule.secret = true

/-- Whether an issue about a variable is made of the violated demand and of what is shown of the value. -/
def ShowsOnly (shown : String → String) (used : List Usage) (config : Config) (declaration : Declaration) : Prop :=
  ∃ form : Option Violation → String → Issue, ∀ value issue,
    check used config { declaration with value } = .ok (some issue) →
      issue = form (demand? config declaration.name value) (shown value)

/-- Whether an issue about a variable tells the value as it stands: neither the parser nor a rule with demands keeps it
back, and most usages take it for a number. -/
structure IsTold (used : List Usage) (config : Config) (declaration : Declaration) : Prop where
  unflagged : declaration.isSecret = false
  undemanding : activeRule? config declaration.name = none
  counted : Shape.mostCommon ((usagesOf used declaration.name).filterMap (·.shape)) = some .number

variable {used : List Usage} {config : Config} {declaration : Declaration} {issue : Issue}

section Rules
variable {rule : Rule}

theorem byRule?_eq_ok {declaration : Declaration} (made : byRule? declaration rule = .ok (some issue)) :
    ∃ violation, rule.constraints.violation? declaration.value = .ok (some violation) ∧
      ofViolation declaration (Secret.mask declaration.value (declaration.isSecret || rule.secret)) violation =
        .ok issue := by
  obtain ⟨violation, violated, rest⟩ := Outcome.bind_eq_ok.mp made
  cases violation with
  | none => cases rest
  | some violation =>
    obtain ⟨value, worded, same⟩ := Outcome.bind_eq_ok.mp rest
    cases same
    exact ⟨violation, violated, worded⟩

theorem ofViolation_with (declaration : Declaration) (value shown : String) (violation : Violation) :
    ofViolation { declaration with value } shown violation = ofViolation declaration shown violation := by
  cases violation <;> rfl

theorem showsOnly_of_rule (active : activeRule? config declaration.name = some rule) :
    ShowsOnly (Secret.mask · (declaration.isSecret || rule.secret)) used config declaration := by
  refine ⟨fun demand shown => ((demand.bind fun violation =>
    (ofViolation declaration shown violation).toOption)).getD default, fun value issue made => ?_⟩
  rw [check, active] at made
  obtain ⟨violation, violated, worded⟩ := byRule?_eq_ok made
  rw [ofViolation_with] at worded
  rw [demand?, active]
  simp only [violated, Except.toOption, Option.join_some, Option.bind_some]
  rw [worded]
  rfl

end Rules

section Usages
variable {name value shown usedAt : String} {shape : Shape} {first : Usage} {others : List Usage}

theorem complaint?_empty {complaint : Severity × String}
    (made : complaint? name value shown usedAt shape = .ok (some complaint)) :
    complaint? name "" shown usedAt shape = .ok (some complaint) := by
  cases shape with
  | number =>
    obtain ⟨found, _, rest⟩ := Outcome.bind_eq_ok.mp made
    split at rest
    · cases rest
    · exact rest
  | boolean =>
    simp only [complaint?] at made ⊢
    split at made
    · cases made
    · exact made
  | json =>
    obtain ⟨written, _, rest⟩ := Outcome.bind_eq_ok.mp made
    cases written with
    | true => cases rest
    | false => exact rest
  | array =>
    simp only [complaint?] at made ⊢
    split at made
    · cases made
    · exact made
  | string => cases made
  | other name => cases made

theorem complaint?_hides (other : shape ≠ .number) (shown shown' : String) :
    complaint? name value shown usedAt shape = complaint? name value shown' usedAt shape := by
  cases shape with
  | number => exact absurd rfl other
  | _ => rfl

def ofComplaint (declaration : Declaration) (first : Usage) (shape : Shape) (complaint : Severity × String) :
    Issue where
  kind := .typeMismatch
  severity := complaint.1
  name := declaration.name
  message := complaint.2
  location := some (place declaration)
  context := [("used_at", .text (first.file ++ ":" ++ toString first.line)), ("inferred_type", .text shape.name)]

theorem byUsages?_eq_ok {declaration : Declaration} {usages : List Usage} :
    byUsages? declaration usages = .ok (some issue) ↔
      declaration.value ≠ "" ∧ ∃ first shape complaint, usages.head? = some first ∧
        Shape.mostCommon (usages.filterMap (·.shape)) = some shape ∧
        complaint? declaration.name declaration.value (Secret.mask declaration.value declaration.isSecret)
          (first.file ++ ":" ++ toString first.line) shape = .ok (some complaint) ∧
        issue = ofComplaint declaration first shape complaint := by
  unfold byUsages?
  split
  · next first others shape common =>
    by_cases empty : declaration.value = ""
    · simp [empty]
    · rw [if_neg (by simpa using empty), Outcome.bind_eq_ok]
      constructor
      · rintro ⟨complaint, judged, rest⟩
        cases complaint with
        | none => cases rest
        | some complaint =>
          cases rest
          exact ⟨empty, first, shape, complaint, rfl, common, judged, rfl⟩
      · rintro ⟨_, _, _, complaint, head, suggested, judged, rfl⟩
        cases head
        cases common.symm.trans suggested
        exact ⟨some complaint, judged, rfl⟩
  · next lacking =>
    refine iff_of_false (by rintro ⟨⟩) ?_
    rintro ⟨_, first, shape, _, head, common, _⟩
    obtain ⟨others, rfl⟩ := List.head?_eq_some_iff.mp head
    exact lacking first others shape rfl common

theorem showsOnly_of_usages {shown : String → String} (undemanding : activeRule? config declaration.name = none)
    (hides : Shape.mostCommon ((usagesOf used declaration.name).filterMap (·.shape)) = some .number →
      ∀ value, shown value = Secret.mask value declaration.isSecret) :
    ShowsOnly shown used config declaration := by
  -- The first usage and the shape are those of the variable, so the form only has to look them up.
  refine ⟨fun _ text => ((do
    let first ← (usagesOf used declaration.name).head?
    let shape ← Shape.mostCommon ((usagesOf used declaration.name).filterMap (·.shape))
    let complaint ← (complaint? declaration.name "" text (first.file ++ ":" ++ toString first.line) shape).toOption.join
    return ofComplaint declaration first shape complaint) : Option Issue).getD default, fun value issue made => ?_⟩
  rw [check, undemanding] at made
  obtain ⟨_, first, shape, complaint, head, common, judged, rfl⟩ := byUsages?_eq_ok.mp made
  have worded : complaint? declaration.name value (shown value) (first.file ++ ":" ++ toString first.line) shape =
      .ok (some complaint) := by
    refine Eq.trans ?_ judged
    by_cases counted : shape = .number
    · rw [hides (counted ▸ common)]
    · exact complaint?_hides counted _ _
  simp only [head, common, complaint?_empty worded, Except.toOption, Option.join_some, Option.bind_eq_bind,
    Option.bind_some]
  rfl

theorem IsTold.message {declaration : Declaration} (told : IsTold used config declaration) :
    ∃ before after, ∀ value, value ≠ "" → Shape.ofText value.toList = .ok (some .string) →
      ∃ issue, check used config { declaration with value } = .ok (some issue) ∧
        issue.message = before ++ value ++ after := by
  obtain ⟨unflagged, undemanding, counted⟩ := told
  obtain ⟨first, head⟩ : ∃ first, (usagesOf used declaration.name).head? = some first := by
    cases usages : usagesOf used declaration.name with
    | nil =>
      rw [usages] at counted
      cases counted
    | cons first others => exact ⟨first, rfl⟩
  let before := "Variable \"" ++ declaration.name ++ "\" is " ++ "used as a number at "
    ++ (first.file ++ ":" ++ toString first.line) ++ " but value \""
  refine ⟨before, "\" is not numeric", fun value filled text =>
    ⟨ofComplaint declaration first .number (.warning, before ++ value ++ "\" is not numeric"), ?_, rfl⟩⟩
  rw [check, undemanding]
  refine byUsages?_eq_ok.mpr ⟨filled, first, .number, _, head, counted, ?_, rfl⟩
  simp only [complaint?, text, unflagged]
  rfl

end Usages

section Secrets

theorem IsSecret.concealed {rule : Rule} (secret : IsSecret config declaration)
    (active : activeRule? config declaration.name = some rule) : (declaration.isSecret || rule.secret) = true := by
  rw [Bool.or_eq_true]
  refine secret.imp_right fun ⟨own, found, marked⟩ => ?_
  obtain ⟨same, _⟩ := Option.filter_eq_some_iff.mp active
  cases found.symm.trans same
  exact marked

theorem ofViolation_context {declaration : Declaration} {text : String} {violation : Violation}
    (worded : ofViolation declaration text violation = .ok issue) {key : String} {shown : Json}
    (entry : (key, shown) ∈ issue.context) (kept : key = "value" ∨ key = "actual") : shown = .text text := by
  have pair {other label : String} {demanded : Json} (listed : (key, shown) ∈ [(other, demanded), (label, .text text)])
      (apart : other ≠ "value" ∧ other ≠ "actual") : shown = .text text := by
    rcases List.mem_cons.mp listed with same | same
    · cases same
      exact (kept.elim apart.1 apart.2).elim
    · cases List.mem_singleton.mp same
      rfl
  cases violation with
  | type type =>
    rw [ofViolation] at worded
    split at worded <;> cases worded
    exact pair entry (by decide)
  | pattern pattern =>
    cases worded
    exact pair entry (by decide)
  | enum allowed =>
    cases worded
    exact pair entry (by decide)

theorem IsSecret.context {key : String} {shown : Json} (secret : IsSecret config declaration)
    (made : check used config declaration = .ok (some issue)) (entry : (key, shown) ∈ issue.context)
    (kept : key = "value" ∨ key = "actual") : shown = .text (Secret.mask declaration.value true) := by
  unfold check at made
  split at made
  · next rule active =>
    obtain ⟨violation, _, worded⟩ := byRule?_eq_ok made
    rw [secret.concealed active] at worded
    exact ofViolation_context worded entry kept
  · obtain ⟨_, first, shape, complaint, _, _, _, rfl⟩ := byUsages?_eq_ok.mp made
    rcases kept with rfl | rfl <;> simp [ofComplaint] at entry

theorem IsTold.not_showsOnly (told : IsTold used config declaration) :
    ¬ ShowsOnly (Secret.mask · true) used config declaration := by
  rintro ⟨form, shows⟩
  obtain ⟨before, after, tells⟩ := told.message
  -- Two words that are masked alike.
  obtain ⟨one, made, message⟩ := tells "ab1yz" (by decide) rfl
  obtain ⟨other, made', message'⟩ := tells "ab2yz" (by decide) rfl
  have demanded (value : String) : demand? config declaration.name value = none := by rw [demand?, told.undemanding]
  have masked : Secret.mask "ab1yz" true = Secret.mask "ab2yz" true := by decide
  have same : one = other := by
    rw [shows _ _ made, shows _ _ made', demanded, demanded]
    exact congrArg (form none) masked
  rw [same, message'] at message
  have texts := congrArg String.toList message
  simp only [String.toList_append, List.append_cancel_left_eq, List.append_cancel_right_eq] at texts
  exact absurd texts (by decide)

theorem IsSecret.showsOnly_iff (secret : IsSecret config declaration) :
    ShowsOnly (Secret.mask · true) used config declaration ↔ ¬ IsTold used config declaration := by
  refine ⟨fun shows told => told.not_showsOnly shows, fun untold => ?_⟩
  cases active : activeRule? config declaration.name with
  | some rule =>
    have shows : ShowsOnly _ used config declaration := showsOnly_of_rule active
    rwa [secret.concealed active] at shows
  | none =>
    refine showsOnly_of_usages active fun counted value => ?_
    cases flagged : declaration.isSecret with
    | true => rfl
    | false => exact absurd ⟨flagged, active, counted⟩ untold

end Secrets

theorem current?_of_ofName? {declared : List Declaration} {name : String}
    (made : ofName? declared used config name = .ok (some issue)) :
    ∃ declaration, current? declared issue.name = some declaration ∧
      check used config declaration = .ok (some issue) := by
  rw [(ofName?_isAbout made).name]
  rw [ofName?] at made
  split at made
  · cases made
  · next declaration subject =>
    have named := name_of_subject? subject
    rw [subject?] at subject
    split at subject
    · cases subject
    · refine ⟨declaration, subject, ?_⟩
      rw [check, named]
      exact made

/-- Every issue about a value that does not fit is the one of the declaration that counts for its name. If the variable
is secret, the places for its value hold the masked value. The whole issue is made of the violated demand and the masked
value alone exactly if the value is not told as it stands. -/
theorem masked_unless_told (declared : List Declaration) (used : List Usage) (config : Config) {found : List Issue}
    (ok : issues declared used config = .ok found) {issue : Issue} (member : issue ∈ found) :
    ∃ declaration, current? declared issue.name = some declaration ∧
      check used config declaration = .ok (some issue) ∧
      (IsSecret config declaration →
        (∀ key shown, (key, shown) ∈ issue.context → key = "value" ∨ key = "actual" →
          shown = .text (Secret.mask declaration.value true)) ∧
        (ShowsOnly (Secret.mask · true) used config declaration ↔ ¬ IsTold used config declaration)) := by
  obtain ⟨results, judged, same⟩ := Outcome.bind_eq_ok.mp ok
  cases same
  obtain ⟨result, listed, rfl⟩ := List.mem_filterMap.mp member
  obtain ⟨name, _, made⟩ := (Outcome.mem_of_mapM judged).mp listed
  obtain ⟨declaration, counts, made⟩ := current?_of_ofName? made
  exact ⟨declaration, counts, made, fun secret =>
    ⟨fun key shown entry kept => secret.context made entry kept, secret.showsOnly_iff⟩⟩

def ruledSecrets : Config where
  ruleEntries := [("PIN", .read { secret := true }),
    ("SEED", .read { constraints := { type := some .number }, secret := true })]

def pinDeclaration : Declaration := { name := "PIN", value := "abcdef", line := 1, file := ".env" }

def seedDeclaration : Declaration := { name := "SEED", value := "uvwxyz", line := 2, file := ".env" }

def countingRead (name : String) (line : Nat) : Usage :=
  { name, file := "src/a.ts", line, column := 7, access := .direct, shape := some .number }

theorem masked_unless_told_ruled :
    ∃ told masked, issues [pinDeclaration, seedDeclaration] [countingRead "PIN" 1, countingRead "SEED" 2] ruledSecrets =
        .ok [told, masked] ∧
      told.message = "Variable \"PIN\" is used as a number at src/a.ts:1 but value \"abcdef\" is not numeric" ∧
      ¬ ShowsOnly (Secret.mask · true) [countingRead "PIN" 1, countingRead "SEED" 2] ruledSecrets pinDeclaration ∧
      ShowsOnly (Secret.mask · true) [countingRead "PIN" 1, countingRead "SEED" 2] ruledSecrets seedDeclaration ∧
      masked.context.lookup "value" = some (.text "uv****yz") := by
  have ok : issues [pinDeclaration, seedDeclaration] [countingRead "PIN" 1, countingRead "SEED" 2] ruledSecrets =
      .ok [_, _] := rfl
  obtain ⟨pin, counts, _, conceals⟩ := masked_unless_told _ _ _ ok List.mem_cons_self
  obtain ⟨seed, counts', _, conceals'⟩ := masked_unless_told _ _ _ ok (List.mem_cons_of_mem _ List.mem_cons_self)
  cases counts
  cases counts'
  obtain ⟨_, exact⟩ := conceals (.inr ⟨_, rfl, rfl⟩)
  obtain ⟨_, exact'⟩ := conceals' (.inr ⟨_, rfl, rfl⟩)
  refine ⟨_, _, ok, rfl, fun shows => exact.mp shows ⟨rfl, rfl, rfl⟩, exact'.mpr fun told => ?_, rfl⟩
  cases told.undemanding

end EnvAudit.Mismatch
