import EnvAudit.Config.Record
import EnvAudit.Proofs.Config.Isolation

/-! Writing a configuration and loading it again. What loading leaves in a section can always be written: every pattern
is one that loading takes, a default is never nothing, and every entry is one that was read. Such a section, written as
a value, is loaded without a problem and is the same again. -/
namespace EnvAudit

def Constraints.IsSound (c : Constraints) : Prop :=
  ∀ setting, c.pattern = some setting → Config.isPattern setting = true

def Override.IsSound (o : Override) : Prop := o.constraints.IsSound

structure Rule.IsSound (r : Rule) : Prop where
  constraints : r.constraints.IsSound
  default : ∀ value, r.default = some value → (value == .null) = false
  environments : ∀ entry ∈ r.environments, entry.2.IsSound

namespace Config

def readEntries {α : Type} (entries : List (String × α)) : List (String × Entry α) :=
  entries.map fun (name, value) => (name, .read value)

/-- Whether the sections of a configuration are as loading can leave them. -/
structure HasSections (c : Config) : Prop where
  rules : ∃ rules, c.ruleEntries = readEntries rules ∧ ∀ entry ∈ rules, entry.2.IsSound
  environments : ∃ settings, c.environments = readEntries settings
  matrix : ∃ setting, c.matrix = some setting

section Leaving
variable {α β : Type}

theorem map_eq_ok {result : Except Refusal α} {f : α → β} {new : β} (ok : result.map f = .ok new) :
    ∃ value, result = .ok value ∧ new = f value := by
  cases result with
  | error refusal => cases ok
  | ok value =>
    cases ok
    exact ⟨value, rfl, rfl⟩

theorem loadPlainField_sets {set? : String → Json → α → Option (Except Refusal α)} {key path : String} {value : Json}
    {old : α} {loaded : Loaded α} (ok : loadPlainField set? key path value old = .ok loaded) :
    loaded.value = old ∨ set? key value old = some (.ok loaded.value) := by
  unfold loadPlainField at ok
  cases made : set? key value old with
  | none =>
    rw [made] at ok
    cases ok
    exact .inl rfl
  | some result =>
    rw [made] at ok
    cases result with
    | error refusal => exact .inl (takes_of_refuse ok).1
    | ok new =>
      cases ok
      exact .inr rfl

theorem loadRuleField_sets {set? : String → Json → α → Option (Except Refusal α)} {key path : String} {value : Json}
    {old : α} {loaded : Loaded α} (ok : loadRuleField set? key path value old = .ok loaded) :
    loaded.value = old ∨ ∃ taken, set? key taken old = some (.ok loaded.value) ∧
      (key = "pattern" → (Kind.orNull .pattern).admits taken = true) := by
  unfold loadRuleField at ok
  split at ok
  · exact (loadPlainField_sets ok).imp_right fun made => ⟨_, made, fun named => absurd named (by decide)⟩
  · exact (loadPlainField_sets ok).imp_right fun made => ⟨_, made, fun named => absurd named (by decide)⟩
  · exact (loadPlainField_sets ok).imp_right fun made => ⟨_, made, fun _ => rfl⟩
  · next setting =>
    obtain ⟨refusal?, judged, ok⟩ := Outcome.bind_eq_ok.mp ok
    have pattern := patternRefusal?_isNone judged
    cases refusal? with
    | some refusal =>
      cases ok
      exact .inl rfl
    | none =>
      have admitted : (Kind.orNull .pattern).admits (.text setting) = true := pattern.symm
      exact (loadPlainField_sets ok).imp_right fun made => ⟨_, made, fun _ => admitted⟩
  · cases ok
    exact .inl rfl
  · next noPattern _ _ _ =>
    exact (loadPlainField_sets ok).imp_right fun made => ⟨_, made, fun named => absurd named noPattern⟩

def Keeps (load : FieldLoader α) (P : α → Prop) : Prop :=
  ∀ ⦃key path value old loaded⦄, load key path value old = .ok loaded → P old → P loaded.value

variable {load : FieldLoader α} {P : α → Prop}

theorem Keeps.loadFields (keeps : Keeps load P) {path : String} {fields : List (String × Json)} {done loaded : Loaded α}
    (ok : loadFields load path fields done = .ok loaded) (begun : P done.value) : P loaded.value := by
  induction fields generalizing done with
  | nil =>
    cases ok
    exact begun
  | cons field rest ih =>
    obtain ⟨next, first, ok⟩ := Outcome.bind_eq_ok.mp ok
    have kept : P next.value := keeps first begun
    exact @ih ⟨next.value, done.problems ++ next.problems⟩ ok kept

theorem Keeps.loadSection (keeps : Keeps load P) {empty : α} (begun : P empty) {path : String} {value : Json}
    {loaded : Loaded α} (ok : loadSection empty load path value = .ok loaded) : P loaded.value := by
  unfold Config.loadSection at ok
  split at ok
  · exact keeps.loadFields ok begun
  · cases ok
    exact begun

theorem loadTable_forall {load : String → Json → Except Failure (Loaded α)}
    (each : ∀ path value loaded, load path value = .ok loaded → P loaded.value) {path : String}
    {entries : List (String × Json)} {table : Loaded (List (String × α))}
    (ok : loadTable load path entries = .ok table) : ∀ entry ∈ table.value, P entry.2 := by
  induction entries generalizing table with
  | nil =>
    cases ok
    exact List.forall_mem_nil _
  | cons entry rest ih =>
    obtain ⟨first, read, ok⟩ := Outcome.bind_eq_ok.mp ok
    obtain ⟨others, table, ok⟩ := Outcome.bind_eq_ok.mp ok
    cases ok
    exact List.forall_mem_cons.mpr ⟨each _ _ _ read, ih table⟩

end Leaving

section Sound
variable {key path : String} {value : Json}

theorem stringField?_pattern {slot : Slot} {pattern : Option String}
    (admits : (Kind.orNull .pattern).admits value = true) (ok : stringField? slot value = .ok pattern) :
    ∀ setting, pattern = some setting → isPattern setting = true := by
  rintro setting rfl
  cases value with
  | text text =>
    cases ok
    exact admits
  | _ => cases ok

theorem isSound_of_setConstraint? {owner : String} {old new : Constraints}
    (made : setConstraint? owner key value old = some (.ok new))
    (taken : key = "pattern" → (Kind.orNull .pattern).admits value = true) (sound : old.IsSound) : new.IsSound := by
  unfold setConstraint? at made
  split at made
  · obtain ⟨_, _, rfl⟩ := map_eq_ok (Option.some.inj made)
    exact sound
  · obtain ⟨pattern, ok, rfl⟩ := map_eq_ok (Option.some.inj made)
    exact stringField?_pattern (taken rfl) ok
  · obtain ⟨_, _, rfl⟩ := map_eq_ok (Option.some.inj made)
    exact sound
  · cases made

theorem override_isSound_of_set? {old new : Override} (made : Override.set? key value old = some (.ok new))
    (taken : key = "pattern" → (Kind.orNull .pattern).admits value = true) (sound : old.IsSound) : new.IsSound := by
  unfold Override.set? at made
  split at made
  case h_4 =>
    obtain ⟨result, set, made⟩ := Option.map_eq_some_iff.mp made
    obtain ⟨_, rfl, rfl⟩ := map_eq_ok made
    exact isSound_of_setConstraint? set taken sound
  all_goals
    obtain ⟨_, _, rfl⟩ := map_eq_ok (Option.some.inj made)
    exact sound

theorem rule_isSound_of_set? {old new : Rule} (made : Rule.set? key value old = some (.ok new))
    (taken : key = "pattern" → (Kind.orNull .pattern).admits value = true) (sound : old.IsSound) : new.IsSound := by
  unfold Rule.set? at made
  split at made
  case h_3 =>
    cases made
    refine ⟨sound.constraints, fun other own => ?_, sound.environments⟩
    split at own
    · cases own
    · next something =>
      cases own
      simpa using something
  case h_6 =>
    obtain ⟨result, set, made⟩ := Option.map_eq_some_iff.mp made
    obtain ⟨_, rfl, rfl⟩ := map_eq_ok made
    exact ⟨isSound_of_setConstraint? set taken sound.constraints, sound.default, sound.environments⟩
  all_goals
    obtain ⟨_, _, rfl⟩ := map_eq_ok (Option.some.inj made)
    exact ⟨sound.constraints, sound.default, sound.environments⟩

theorem loadOverride_isSound (path : String) (value : Json) (loaded : Loaded Override)
    (ok : loadOverride path value = .ok loaded) : loaded.value.IsSound := by
  have keeps : Keeps (loadRuleField Override.set?) Override.IsSound := by
    intro key path value old loaded ok sound
    rcases loadRuleField_sets ok with same | ⟨taken, made, pattern⟩
    · exact same ▸ sound
    · exact override_isSound_of_set? made pattern sound
  exact keeps.loadSection (by rintro _ ⟨⟩) ok

theorem loadVariableField_isSound : Keeps loadVariableField Rule.IsSound := by
  intro key path value old loaded ok sound
  unfold loadVariableField at ok
  split at ok
  · obtain ⟨table, read, ok⟩ := Outcome.bind_eq_ok.mp ok
    cases ok
    exact ⟨sound.constraints, sound.default, loadTable_forall loadOverride_isSound read⟩
  · exact (takes_of_refuse ok).1 ▸ sound
  · rcases loadRuleField_sets ok with same | ⟨taken, made, pattern⟩
    · exact same ▸ sound
    · exact rule_isSound_of_set? made pattern sound

theorem loadRule_isSound (path : String) (value : Json) (loaded : Loaded Rule) (ok : loadRule path value = .ok loaded) :
    loaded.value.IsSound :=
  loadVariableField_isSound.loadSection
    ⟨by rintro _ ⟨⟩, by rintro _ ⟨⟩, List.forall_mem_nil _⟩ ok

theorem hasSections_of_set? {old new : Config} (made : set? key value old = some (.ok new))
    (has : old.HasSections) : new.HasSections := by
  unfold set? at made
  split at made
  case h_10 => cases made
  all_goals
    obtain ⟨_, _, rfl⟩ := map_eq_ok (Option.some.inj made)
    exact ⟨has.rules, has.environments, has.matrix⟩

theorem loadPlainField_hasSections {old : Config} {loaded : Loaded Config}
    (ok : loadPlainField set? key path value old = .ok loaded) (has : old.HasSections) : loaded.value.HasSections := by
  rcases loadPlainField_sets ok with same | made
  · exact same ▸ has
  · exact hasSections_of_set? made has

theorem loadSecretPatterns_hasSections {old : Config} {loaded : Loaded Config}
    (ok : loadSecretPatterns path value old = .ok loaded) (has : old.HasSections) : loaded.value.HasSections := by
  have spec := loadSecretPatterns_spec ok
  split at spec
  · rw [spec.1]
    exact ⟨has.rules, has.environments, has.matrix⟩
  · exact spec.1 ▸ has

theorem loadConfigField_hasSections : Keeps loadConfigField HasSections := by
  intro key path value old loaded ok has
  unfold loadConfigField at ok
  split at ok
  · obtain ⟨table, read, ok⟩ := Outcome.bind_eq_ok.mp ok
    cases ok
    exact ⟨⟨table.value, rfl, loadTable_forall loadRule_isSound read⟩, has.environments, has.matrix⟩
  · exact (takes_of_refuse ok).1 ▸ has
  · obtain ⟨table, read, ok⟩ := Outcome.bind_eq_ok.mp ok
    cases ok
    exact ⟨has.rules, ⟨table.value, rfl⟩, has.matrix⟩
  · exact (takes_of_refuse ok).1 ▸ has
  · obtain ⟨matrix, read, ok⟩ := Outcome.bind_eq_ok.mp ok
    cases ok
    exact ⟨has.rules, has.environments, ⟨matrix.value, rfl⟩⟩
  · exact loadSecretPatterns_hasSections ok has
  · exact loadPlainField_hasSections ok has

theorem hasSections_of_load {loaded : Loaded Config} (ok : load value = .ok loaded) : loaded.value.HasSections :=
  loadConfigField_hasSections.loadSection ⟨⟨[], rfl, List.forall_mem_nil _⟩, ⟨[], rfl⟩, ⟨{}, rfl⟩⟩ ok

theorem isPattern_of_load {loaded : Loaded Config} (ok : load value = .ok loaded) :
    ∀ setting ∈ loaded.value.secretPatterns, isPattern setting = true := by
  cases value with
  | object fields =>
    intro setting member
    rw [loadFields_secretPatterns ok, lastPatterns] at member
    cases last : (heededPatterns fields).getLast? with
    | none =>
      rw [last] at member
      cases member
    | some texts =>
      rw [last] at member
      exact (List.mem_filter.mp member).2
  | _ =>
    cases ok
    exact List.forall_mem_nil _

end Sound

section Restoring
variable {α β : Type} {load : FieldLoader α} {old mid new : α}

theorem loadFields_append (path : String) (first second : List (String × Json)) (done : Loaded α) :
    loadFields load path (first ++ second) done = loadFields load path first done >>= loadFields load path second := by
  induction first generalizing done with
  | nil => rfl
  | cons field rest ih =>
    rw [List.cons_append, loadFields, loadFields, bind_assoc]
    congr 1
    funext next
    exact ih _

def Restores (load : FieldLoader α) (fields : List (String × Json)) (old new : α) : Prop :=
  ∀ path, loadFields load path fields ⟨old, []⟩ = .ok ⟨new, []⟩

theorem Restores.field {name : String} {value : Json} (own : optionName name = name)
    (taken : ∀ path, load name path value old = .ok ⟨new, []⟩) : Restores load [(name, value)] old new := by
  intro path
  rw [loadFields, own, taken]
  rfl

theorem Restores.append {first second : List (String × Json)} (before : Restores load first old mid)
    (after : Restores load second mid new) : Restores load (first ++ second) old new := by
  intro path
  rw [loadFields_append, before path]
  exact after path

theorem Restores.cons {name : String} {value : Json} {rest : List (String × Json)} (mid : α)
    (own : optionName name = name) (taken : ∀ path, load name path value old = .ok ⟨mid, []⟩)
    (others : Restores load rest mid new) : Restores load ((name, value) :: rest) old new :=
  (Restores.field own taken).append others

theorem Restores.optional {name : String} {write : β → Json} (put : Option β → α) (own : optionName name = name)
    (taken : ∀ path value, load name path (write value) (put none) = .ok ⟨put (some value), []⟩) (value : Option β) :
    Restores load (Json.optional name write value) (put none) (put value) := by
  cases value with
  | none => exact fun _ => rfl
  | some value => exact .field own fun path => taken path value

theorem loadTable_restores {load : String → Json → Except Failure (Loaded α)} {write : α → Json}
    {entries : List (String × α)}
    (each : ∀ entry ∈ entries, ∀ path, load path (write entry.2) = .ok ⟨entry.2, []⟩) (path : String) :
    loadTable load path (entries.map fun (name, value) => (name, write value)) = .ok ⟨entries, []⟩ := by
  induction entries with
  | nil => rfl
  | cons entry rest ih =>
    obtain ⟨head, tail⟩ := List.forall_mem_cons.mp each
    exact Outcome.bind_eq_ok.mpr ⟨_, head _, Outcome.bind_eq_ok.mpr ⟨_, ih tail, rfl⟩⟩

theorem listField_ofStrings (slot : Slot) (texts : List String) : listField slot (Json.ofStrings texts) = .ok texts :=
  strings_map_text slot texts

theorem map_scalarText (texts : List String) : (texts.map Json.text).map scalarText = texts.map Json.text := by
  rw [List.map_map]
  rfl

theorem typeField_name (slot : Slot) (type : ValueType) : typeField slot (.text type.name) = .ok (some type) := by
  cases type <;> rfl

theorem loadPlainField_eq {set? : String → Json → α → Option (Except Refusal α)} {key : String} {value : Json}
    (made : set? key value old = some (.ok new)) (path : String) :
    loadPlainField set? key path value old = .ok ⟨new, []⟩ := by
  rw [loadPlainField, made]
  rfl

structure Holds (load : FieldLoader α) (put : Constraints → α) : Prop where
  enum : ∀ path items c, load "enum" path (Json.ofStrings items) (put c) = .ok ⟨put { c with enum := some items }, []⟩
  pattern : ∀ path setting c, isPattern setting = true →
    load "pattern" path (.text setting) (put c) = .ok ⟨put { c with pattern := some setting }, []⟩
  type : ∀ path type c, load "type" path (.text (ValueType.name type)) (put c) =
    .ok ⟨put { c with type := some type }, []⟩

theorem holds_of_set? {set? : String → Json → α → Option (Except Refusal α)} (owner : String) {put : Constraints → α}
    (sets : ∀ key ∈ ["enum", "pattern", "type"], ∀ value c,
      set? key value (put c) = (setConstraint? owner key value c).map (·.map put)) :
    Holds (loadRuleField set?) put where
  enum path items c := by
    have made := sets "enum" (by decide) (.list ((items.map Json.text).map scalarText)) c
    refine loadPlainField_eq (made.trans ?_) path
    simp only [setConstraint?, listField?, map_scalarText, listField, strings_map_text]
    rfl
  pattern path setting c pattern := by
    have made := sets "pattern" (by decide) (.text setting) c
    exact Outcome.bind_eq_ok.mpr ⟨none, patternRefusal?_of_isPattern pattern, loadPlainField_eq (made.trans rfl) path⟩
  type path type c := by
    have made := sets "type" (by decide) (.text type.name) c
    refine loadPlainField_eq (made.trans ?_) path
    simp only [setConstraint?, typeField_name]
    rfl

theorem constraints_restores {put : Constraints → α} (holds : Holds load put) {c : Constraints} (sound : c.IsSound) :
    Restores load c.record (put {}) (put c) := by
  have pattern : Restores load (Json.optional "pattern" .text c.pattern) (put { enum := c.enum })
      (put { enum := c.enum, pattern := c.pattern }) := by
    cases own : c.pattern with
    | none => exact fun _ => rfl
    | some setting => exact .field (by rfl) fun path => holds.pattern path setting _ (sound setting own)
  have enum := Restores.optional (fun enum => put { enum }) (by rfl) (fun path items => holds.enum path items {}) c.enum
  have type := Restores.optional (fun type => put { enum := c.enum, pattern := c.pattern, type }) (by rfl)
    (fun path type => holds.type path type { enum := c.enum, pattern := c.pattern }) c.type
  exact (enum.append pattern).append type

end Restoring

theorem loadOverride_record {o : Override} (sound : o.IsSound) (path : String) :
    loadOverride path o.record = .ok ⟨o, []⟩ := by
  have holds : Holds (loadRuleField Override.set?) fun constraints => { constraints } :=
    holds_of_set? "EnvironmentOverride" (by simp [Override.set?])
  have message : Restores (loadRuleField Override.set?) (Json.optional "message" .text o.message)
      { constraints := o.constraints } { constraints := o.constraints, message := o.message } :=
    .optional (fun message => ({ constraints := o.constraints, message } : Override)) (by rfl) (fun _ _ => rfl) _
  have mustBe : Restores (loadRuleField Override.set?) (Json.optional "must_be" .text o.mustBe)
      { constraints := o.constraints, message := o.message } { o with required := none } :=
    .optional (fun mustBe => ({ constraints := o.constraints, message := o.message, mustBe } : Override)) (by rfl)
      (fun _ _ => rfl) _
  have required : Restores (loadRuleField Override.set?) (Json.optional "required" .bool o.required)
      { o with required := none } o :=
    .optional (fun required => ({ o with required } : Override)) (by rfl) (fun _ _ => rfl) _
  exact (((constraints_restores holds sound).append message).append mustBe).append required path

theorem loadVariableField_environments {r : Rule} (sound : r.IsSound) (path : String) (old : Rule) :
    loadVariableField "environments" path (.object (r.environments.map fun (name, o) => (name, o.record))) old =
      .ok ⟨{ old with environments := r.environments }, []⟩ :=
  have overrides :=
    loadTable_restores fun entry member path => loadOverride_record (sound.environments entry member) path
  Outcome.bind_eq_ok.mpr ⟨_, overrides path, rfl⟩

theorem loadRule_record {r : Rule} (sound : r.IsSound) (path : String) : loadRule path r.record = .ok ⟨r, []⟩ := by
  have held : Holds (loadRuleField Rule.set?) fun constraints => { constraints } :=
    holds_of_set? "VariableRule" (by simp [Rule.set?])
  have holds : Holds loadVariableField fun constraints => { constraints } := ⟨held.enum, held.pattern, held.type⟩
  have default : Restores loadVariableField (Json.optional "default" id r.default)
      { constraints := r.constraints } { constraints := r.constraints, default := r.default } := by
    cases own : r.default with
    | none => exact fun _ => rfl
    | some value =>
      refine .field (by rfl) fun path => ?_
      have made : Rule.set? "default" value { constraints := r.constraints } =
          some (.ok { constraints := r.constraints, default := some value }) := by
        simp [Rule.set?, sound.default value own]
      exact loadPlainField_eq made path
  have description : Restores loadVariableField (Json.optional "description" .text r.description)
      { constraints := r.constraints, default := r.default }
      { constraints := r.constraints, default := r.default, description := r.description } :=
    .optional (fun description => ({ constraints := r.constraints, default := r.default, description } : Rule)) (by rfl)
      (fun _ _ => rfl) _
  have docsUrl : Restores loadVariableField (Json.optional "docs_url" .text r.docsUrl)
      { constraints := r.constraints, default := r.default, description := r.description }
      { r with environments := [], required := false, secret := false } :=
    .optional (fun docsUrl =>
      ({ constraints := r.constraints, default := r.default, description := r.description, docsUrl } : Rule)) (by rfl)
      (fun _ _ => rfl) _
  have others : Restores loadVariableField
      [("environments", .object (r.environments.map fun (name, o) => (name, o.record))), ("required", .bool r.required),
        ("secret", .bool r.secret)]
      { r with environments := [], required := false, secret := false } r :=
    .cons { r with required := false, secret := false } (by rfl)
      (loadVariableField_environments sound · _) <|
    .cons { r with secret := false } (by rfl) (fun _ => rfl) <|
    .field (by rfl) fun _ => rfl
  exact ((((constraints_restores holds sound.constraints).append default).append description).append docsUrl).append
    others path

def loadEnvironmentField : FieldLoader EnvironmentSetting :=
  fun key => loadPlainField EnvironmentSetting.set? (if key == "env_files" then "files" else key)

theorem loadEnvironment_record (e : EnvironmentSetting) (path : String) :
    loadEnvironment path e.record = .ok ⟨e, []⟩ := by
  have description : Restores loadEnvironmentField (Json.optional "description" .text e.description) {}
      { description := e.description } :=
    .optional (fun description => ({ description } : EnvironmentSetting)) (by rfl) (fun _ _ => rfl) _
  have files (old : EnvironmentSetting) (path : String) :
      loadEnvironmentField "files" path (Json.ofStrings e.files) old = .ok ⟨{ old with files := e.files }, []⟩ := by
    refine loadPlainField_eq ?_ path
    simp only [EnvironmentSetting.set?, listField_ofStrings]
    rfl
  have others : Restores loadEnvironmentField [("files", Json.ofStrings e.files), ("strict", .bool e.strict)]
      { description := e.description } e :=
    .cons { e with strict := false } (by rfl) (files _) <|
    .field (by rfl) fun _ => rfl
  exact description.append others path

theorem loadMatrix_record (m : MatrixSetting) (path : String) : loadMatrix path m.record = .ok ⟨m, []⟩ := by
  have exclude (old : MatrixSetting) (path : String) :
      loadPlainField MatrixSetting.set? "exclude_from_matrix" path (Json.ofStrings m.excludeFromMatrix) old =
        .ok ⟨{ old with excludeFromMatrix := m.excludeFromMatrix }, []⟩ := by
    refine loadPlainField_eq ?_ path
    simp only [MatrixSetting.set?, listField_ofStrings]
    rfl
  have consistency (old : MatrixSetting) (path : String) :
      loadPlainField MatrixSetting.set? "require_consistency" path (.text m.requireConsistency.name) old =
        .ok ⟨{ old with requireConsistency := m.requireConsistency }, []⟩ := by
    cases m.requireConsistency <;> rfl
  have restores : Restores (loadPlainField MatrixSetting.set?)
      [("exclude_from_matrix", Json.ofStrings m.excludeFromMatrix),
        ("require_consistency", .text m.requireConsistency.name)] {} m :=
    .cons { excludeFromMatrix := m.excludeFromMatrix } (by rfl) (exclude _) <|
    .field (by rfl) (consistency _)
  exact restores path

theorem frameworkField_name (slot : Slot) (framework : Option Framework) :
    frameworkField slot (.text ((framework.map Framework.name).getD "auto")) = .ok framework := by
  cases framework with
  | none => rfl
  | some framework => cases framework <;> rfl

theorem loadConfigField_eq {key : String} {value : Json} {old new : Config} (plain : IsPlainName key)
    (made : set? key value old = some (.ok new)) (path : String) :
    loadConfigField key path value old = .ok ⟨new, []⟩ := by
  rw [plain.loadConfigField]
  exact loadPlainField_eq made path

theorem set?_ofStrings (items : List String) (old : Config) :
    set? "declaration_files" (Json.ofStrings items) old = some (.ok { old with declarationFiles := items }) ∧
    set? "exclude" (Json.ofStrings items) old = some (.ok { old with exclude := items }) ∧
    set? "ignore" (Json.ofStrings items) old = some (.ok { old with ignore := items }) ∧
    set? "include" (Json.ofStrings items) old = some (.ok { old with sources := items }) := by
  refine ⟨?_, ?_, ?_, ?_⟩ <;> simp only [set?, listField_ofStrings] <;> rfl

theorem set?_framework (framework : Option Framework) (old : Config) :
    set? "framework" (.text ((framework.map Framework.name).getD "auto")) old = some (.ok { old with framework }) := by
  simp only [set?, frameworkField_name]
  rfl

theorem map_readEntries {α : Type} (write : α → Json) (entries : List (String × α)) :
    (readEntries entries).map (fun (name, entry) => (name, entry.record write)) =
      entries.map fun (name, value) => (name, write value) := by
  rw [readEntries, List.map_map]
  rfl

theorem loadConfigField_rules {entries : List (String × Entry Rule)} {rules : List (String × Rule)}
    (read : entries = readEntries rules) (sound : ∀ entry ∈ rules, entry.2.IsSound) (path : String) (old : Config) :
    loadConfigField "variables" path (.object (entries.map fun (name, r) => (name, r.record Rule.record))) old =
      .ok ⟨{ old with ruleEntries := entries }, []⟩ := by
  subst read
  rw [map_readEntries]
  exact Outcome.bind_eq_ok.mpr
    ⟨_, loadTable_restores (fun entry member path => loadRule_record (sound entry member) path) path, rfl⟩

theorem loadConfigField_environments {entries : List (String × Entry EnvironmentSetting)}
    {settings : List (String × EnvironmentSetting)} (read : entries = readEntries settings) (path : String)
    (old : Config) :
    loadConfigField "environments" path
      (.object (entries.map fun (name, e) => (name, e.record EnvironmentSetting.record))) old =
        .ok ⟨{ old with environments := entries }, []⟩ := by
  subst read
  rw [map_readEntries]
  exact Outcome.bind_eq_ok.mpr
    ⟨_, loadTable_restores (fun entry _ path => loadEnvironment_record entry.2 path) path, rfl⟩

theorem leadingFields_restore (c : Config) {settings : List (String × EnvironmentSetting)}
    (read : c.environments = readEntries settings) :
    Restores loadConfigField [("declaration_files", Json.ofStrings c.declarationFiles),
      ("environments", .object (c.environments.map fun (name, e) => (name, e.record EnvironmentSetting.record))),
      ("exclude", Json.ofStrings c.exclude), ("framework", .text ((c.framework.map Framework.name).getD "auto")),
      ("ignore", Json.ofStrings c.ignore), ("include", Json.ofStrings c.sources)] {}
      { declarationFiles := c.declarationFiles, environments := c.environments, exclude := c.exclude,
        framework := c.framework, ignore := c.ignore, sources := c.sources } :=
  .cons { declarationFiles := c.declarationFiles } (by rfl)
    (loadConfigField_eq (by constructor <;> decide) (set?_ofStrings _ _).1) <|
  .cons { declarationFiles := c.declarationFiles, environments := c.environments } (by rfl)
    (loadConfigField_environments read · _) <|
  .cons { declarationFiles := c.declarationFiles, environments := c.environments, exclude := c.exclude } (by rfl)
    (loadConfigField_eq (by constructor <;> decide) (set?_ofStrings _ _).2.1) <|
  .cons { declarationFiles := c.declarationFiles, environments := c.environments, exclude := c.exclude,
          framework := c.framework } (by rfl)
    (loadConfigField_eq (by constructor <;> decide) (set?_framework _ _)) <|
  .cons { declarationFiles := c.declarationFiles, environments := c.environments, exclude := c.exclude,
          framework := c.framework, ignore := c.ignore } (by rfl)
    (loadConfigField_eq (by constructor <;> decide) (set?_ofStrings _ _).2.2.1) <|
  .field (by rfl) (loadConfigField_eq (by constructor <;> decide) (set?_ofStrings _ _).2.2.2)

theorem load_record_of_hasSections {c : Config} (has : c.HasSections)
    (patterns : ∀ setting ∈ c.secretPatterns, isPattern setting = true) : load c.record = .ok ⟨c, []⟩ := by
  obtain ⟨rules, rulesRead, sound⟩ := has.rules
  obtain ⟨settings, settingsRead⟩ := has.environments
  obtain ⟨matrix, matrixRead⟩ := has.matrix
  -- The fields are restored in the order in which they are written, with those that may be left out in between.
  have first := leadingFields_restore c settingsRead
  have second : Restores loadConfigField (Json.optional "matrix" MatrixSetting.record c.matrix)
      { declarationFiles := c.declarationFiles, environments := c.environments, exclude := c.exclude,
        framework := c.framework, ignore := c.ignore, sources := c.sources }
      { c with root := ".", secretPatterns := [], strict := false, templateFile := none, ruleEntries := [] } := by
    rw [matrixRead]
    exact .field (by rfl) fun path => Outcome.bind_eq_ok.mpr ⟨_, loadMatrix_record matrix path, rfl⟩
  have third : Restores loadConfigField [("root", .text c.root), ("secret_patterns", Json.ofStrings c.secretPatterns),
      ("strict", .bool c.strict)]
      { c with root := ".", secretPatterns := [], strict := false, templateFile := none, ruleEntries := [] }
      { c with templateFile := none, ruleEntries := [] } :=
    .cons { c with secretPatterns := [], strict := false, templateFile := none, ruleEntries := [] } (by rfl)
      (fun _ => rfl) <|
    .cons { c with strict := false, templateFile := none, ruleEntries := [] } (by rfl)
      (loadSecretPatterns_of_patterns patterns · _) <|
    .field (by rfl) fun _ => rfl
  have fourth : Restores loadConfigField (Json.optional "template_file" .text c.templateFile)
      { c with templateFile := none, ruleEntries := [] } { c with ruleEntries := [] } :=
    .optional (fun templateFile => ({ c with templateFile, ruleEntries := [] } : Config)) (by rfl) (fun _ _ => rfl) _
  have fifth : Restores loadConfigField
      [("variables", .object (c.ruleEntries.map fun (name, r) => (name, r.record Rule.record)))]
      { c with ruleEntries := [] } c :=
    .field (by rfl) (loadConfigField_rules rulesRead sound · _)
  exact (((first.append second).append third).append fourth).append fifth "config"

/-- Whatever was reported when a configuration was loaded, loading what it is written as reports nothing and gives the
same configuration. -/
theorem load_record {value : Json} {loaded : Loaded Config} (ok : load value = .ok loaded) :
    load loaded.value.record = .ok ⟨loaded.value, []⟩ :=
  load_record_of_hasSections (hasSections_of_load ok) (isPattern_of_load ok)

def varied : List (String × Json) :=
  [("envFiles", .list []), ("root", .text ""), ("templateFile", .null), ("Strict", .bool false), ("colour", .int 1),
    ("variables", .object
      [("A", .object [("enum", .list [.int 1, .bool true, .text ""]), ("pattern", .text "["),
          ("default", .object [("deep", .list [.null])]), ("required", .bool false),
          ("environments", .object [("test", .object [("mustBe", .int 0), ("required", .bool false)])])]),
        ("B", .int 7)]),
    ("environments", .object [("test", .object [("env-files", .list [.text ".env.test"]), ("strict", .int 0)])]),
    ("matrix", .null), ("secretPatterns", .list [.text "(", .text "^A_"])]

theorem load_record_varied : ∃ loaded, load (.object varied) = .ok loaded ∧
    loaded.problems.map Problem.path = ["config.colour", "config.variables.A.pattern", "config.variables.B",
      "config.environments.test.strict", "config.matrix", "config.secretPatterns[0]"] ∧
    loaded.value.rule? "A" = some
      { constraints := { enum := some ["1", "true", ""] }, default := some (.object [("deep", .list [.null])]),
        environments := [("test", { mustBe := some "0", required := some false })] } ∧
    load loaded.value.record = .ok ⟨loaded.value, []⟩ := by
  have ok : load (.object varied) = .ok ⟨_, _⟩ := rfl
  exact ⟨_, ok, rfl, rfl, load_record ok⟩

end Config
end EnvAudit
