import EnvAudit.Proofs.Config.Cleaning
import EnvAudit.Proofs.Config.Loading

/-! The list of patterns for secrets. Its entries are looked at one by one, and an entry that is no pattern is left out;
but one whose modes clash, or that has a number of too many digits, takes the other entries of its list along. -/
namespace EnvAudit.Config

theorem refusesList_iff {setting : String} : RefusesList setting ↔
    (match Pattern.ofSetting setting with
      | .error .clashingModes | .error (.longNumber _) => true
      | _ => false) = true := by
  rw [RefusesList]
  cases Pattern.ofSetting setting with
  | ok pattern => simp
  | error fault => cases fault <;> simp

instance (setting : String) : Decidable (RefusesList setting) := decidable_of_iff' _ refusesList_iff

theorem not_refusesList_of_isPattern {setting : String} (pattern : isPattern setting = true) :
    ¬ RefusesList setting := by
  rw [isPattern] at pattern
  rw [refusesList_iff]
  cases found : Pattern.ofSetting setting with
  | ok pattern => simp
  | error fault =>
    rw [found] at pattern
    cases pattern

/-- A setting is a pattern, or it is left out of its list with a problem, or it refuses the whole list. -/
theorem patternRefusal?_cases {setting : String} {refusal? : Option Refusal}
    (ok : patternRefusal? setting = .ok refusal?) :
    refusal? = none ∧ isPattern setting = true ∨
    (∃ message, refusal? = some (.badPattern setting message)) ∧ isPattern setting = false ∧ ¬ RefusesList setting ∨
    (∃ refusal, refusal? = some refusal ∧ ∀ pattern message, refusal ≠ .badPattern pattern message) ∧
      RefusesList setting := by
  have known := patternRefusal?_isNone ok
  rw [patternRefusal?] at ok
  rw [refusesList_iff]
  cases found : Pattern.ofSetting setting with
  | ok pattern =>
    rw [found] at ok
    cases ok
    exact .inl ⟨rfl, known.symm⟩
  | error fault =>
    rw [found] at ok
    cases fault <;> cases ok
    · exact .inr (.inl ⟨⟨_, rfl⟩, known.symm, by simp⟩)
    · exact .inr (.inr ⟨⟨_, rfl, by simp⟩, rfl⟩)
    · exact .inr (.inr ⟨⟨_, rfl, by simp⟩, rfl⟩)

/-- Whether an entry of a list stays there when it is looked at by itself. What is no text is left to the list. -/
def keepsEntry : Json → Bool
  | .text setting => isPattern setting
  | _ => true

def Leaves (items : List Json) (problems : List Problem) : Except Refusal (List Json) → Prop
  | .ok kept => kept = items.filter keepsEntry ∧ (∀ setting, .text setting ∈ items → ¬ RefusesList setting) ∧
      (problems = [] ↔ kept = items)
  | .error _ => ∃ setting, .text setting ∈ items ∧ RefusesList setting

theorem Leaves.cons_of_keeps {item : Json} {items : List Json} {problems : List Problem}
    {kept : Except Refusal (List Json)} (leaves : Leaves items problems kept) (keeps : keepsEntry item = true)
    (harmless : ∀ setting, item = .text setting → ¬ RefusesList setting) :
    Leaves (item :: items) problems (kept.map (item :: ·)) := by
  cases kept with
  | error refusal =>
    obtain ⟨setting, member, refuses⟩ := leaves
    exact ⟨setting, List.mem_cons_of_mem item member, refuses⟩
  | ok kept =>
    obtain ⟨same, others, clear⟩ := leaves
    refine ⟨?_, ?_, ?_⟩
    · rw [List.filter_cons_of_pos keeps, same]
    · intro setting member
      rcases List.mem_cons.mp member with here | later
      · exact harmless setting here.symm
      · exact others setting later
    · simp [clear]

theorem Leaves.cons_of_drops {setting : String} {items : List Json} {problems : List Problem}
    {kept : Except Refusal (List Json)} (leaves : Leaves items problems kept) (drops : isPattern setting = false)
    (harmless : ¬ RefusesList setting) (problem : Problem) :
    Leaves (.text setting :: items) (problem :: problems) kept := by
  cases kept with
  | error refusal =>
    obtain ⟨setting, member, refuses⟩ := leaves
    exact ⟨setting, List.mem_cons_of_mem _ member, refuses⟩
  | ok kept =>
    obtain ⟨same, others, clear⟩ := leaves
    have less : (Json.text setting :: items).filter keepsEntry = items.filter keepsEntry :=
      List.filter_cons_of_neg (by simpa [keepsEntry] using drops)
    refine ⟨less ▸ same, ?_, iff_of_false (List.cons_ne_nil _ _) ?_⟩
    · intro other member
      rcases List.mem_cons.mp member with here | later
      · cases here
        exact harmless
      · exact others other later
    · intro all
      have shorter : kept.length ≤ items.length := same ▸ List.length_filter_le _ _
      rw [all, List.length_cons] at shorter
      omega

theorem leaves_of_keepPatterns {path : String} {index : Nat} {items : List Json} {kept : Except Refusal (List Json)}
    {problems : List Problem} (ok : keepPatterns path index items = .ok (kept, problems)) :
    Leaves items problems kept := by
  induction items generalizing index kept problems with
  | nil =>
    cases ok
    simp [Leaves]
  | cons item rest ih =>
    cases item with
    | text setting =>
      obtain ⟨refusal?, judged, ok⟩ := Outcome.bind_eq_ok.mp ok
      rcases patternRefusal?_cases judged with
        ⟨rfl, pattern⟩ | ⟨⟨message, rfl⟩, bad, harmless⟩ | ⟨⟨refusal, rfl, grave⟩, refuses⟩
      · obtain ⟨⟨others, problems⟩, read, ok⟩ := Outcome.bind_eq_ok.mp ok
        cases ok
        refine (ih read).cons_of_keeps pattern ?_
        rintro _ ⟨⟩
        exact not_refusesList_of_isPattern pattern
      · obtain ⟨⟨others, problems⟩, read, ok⟩ := Outcome.bind_eq_ok.mp ok
        cases ok
        exact (ih read).cons_of_drops bad harmless _
      · cases refusal with
        | badPattern pattern message => exact absurd rfl (grave pattern message)
        | _ =>
          cases ok
          exact ⟨setting, List.mem_cons_self, refuses⟩
    | _ =>
      obtain ⟨_, begun, ok⟩ := Outcome.bind_eq_ok.mp ok
      cases begun
      obtain ⟨⟨others, problems⟩, read, ok⟩ := Outcome.bind_eq_ok.mp ok
      cases ok
      exact (ih read).cons_of_keeps rfl (by rintro _ ⟨⟩)

def IsHeeded (patterns : List String) : Prop := ∀ setting ∈ patterns, ¬ RefusesList setting

instance (patterns : List String) : Decidable (IsHeeded patterns) :=
  inferInstanceAs (Decidable (∀ setting ∈ patterns, ¬ RefusesList setting))

def heeded? (value : Json) : Option (List String) := (texts? value).filter fun texts => decide (IsHeeded texts)

theorem mapM_text? {items : List Json} {texts : List String} :
    items.mapM Json.text? = some texts ↔ items = texts.map Json.text := by
  induction items generalizing texts with
  | nil => cases texts <;> simp
  | cons item rest ih =>
    rw [List.mapM_cons]
    cases item with
    | text first =>
      cases texts with
      | nil => simp [Json.text?, Option.bind_eq_some_iff]
      | cons head others =>
        simp [Json.text?, Option.bind_eq_some_iff, ih]
        tauto
    | _ => cases texts <;> simp [Json.text?]

theorem texts?_eq_some {value : Json} {texts : List String} :
    texts? value = some texts ↔ value = .list (texts.map Json.text) := by
  cases value with
  | list items => rw [texts?, mapM_text?, Json.list.injEq]
  | _ => simp [texts?]

theorem mapM_text?_isSome (items : List Json) : (items.mapM Json.text?).isSome = items.all isText := by
  induction items with
  | nil => rfl
  | cons item rest ih =>
    rw [List.mapM_cons, List.all_cons, ← ih]
    cases item with
    | text first => cases rest.mapM Json.text? <;> rfl
    | _ => rfl

theorem strings_map_text (slot : Slot) (texts : List String) : strings slot (texts.map Json.text) = .ok texts := by
  induction texts with
  | nil => rfl
  | cons first rest ih => rw [List.map_cons, strings, ih]; rfl

theorem filter_keepsEntry (texts : List String) :
    (texts.map Json.text).filter keepsEntry = (texts.filter isPattern).map Json.text := by
  rw [List.filter_map]
  rfl

theorem all_isText_filter (items : List Json) : (items.filter keepsEntry).all isText = items.all isText := by
  rw [List.all_filter]
  congr 1
  funext item
  cases item <;> simp [keepsEntry, isText]

theorem loadPlainField_ofTexts {path : String} {texts : List String} {old : Config} {loaded : Loaded Config}
    (ok : loadPlainField set? "secret_patterns" path (.list (texts.map .text)) old = .ok loaded) :
    loaded = ⟨{ old with secretPatterns := texts }, []⟩ := by
  have stored : Config.set? "secret_patterns" (.list (texts.map .text)) old =
      some (.ok { old with secretPatterns := texts }) := by
    simp only [Config.set?, listField, strings_map_text]
    rfl
  unfold loadPlainField at ok
  rw [stored] at ok
  cases ok
  rfl

theorem loadSecretPatterns_spec {path : String} {value : Json} {old : Config} {loaded : Loaded Config}
    (ok : loadSecretPatterns path value old = .ok loaded) :
    match heeded? value with
    | some texts => loaded.value = { old with secretPatterns := texts.filter isPattern } ∧
        (loaded.problems = [] ↔ texts.filter isPattern = texts)
    | none => Takes false old loaded := by
  have set {value : Json} {loaded : Loaded Config}
      (ok : loadPlainField set? "secret_patterns" path value old = .ok loaded) :
      Takes (Kind.texts.admits value) old loaded := configKind?_isPlainTable.takes set?_fits ok
  unfold loadSecretPatterns at ok
  split at ok
  · next items =>
    obtain ⟨⟨kept, problems⟩, read, ok⟩ := Outcome.bind_eq_ok.mp ok
    have leaves := leaves_of_keepPatterns read
    cases found : texts? (.list items) with
    | none =>
      rw [heeded?, found]
      cases kept with
      | error refusal =>
        cases ok
        exact ⟨rfl, by simp⟩
      | ok kept =>
        obtain ⟨rfl, _, _⟩ := leaves
        obtain ⟨next, taken, ok⟩ := Outcome.bind_eq_ok.mp ok
        cases ok
        have mixed : Kind.texts.admits (.list (items.filter keepsEntry)) = false := by
          rw [Kind.admits, all_isText_filter, ← mapM_text?_isSome, ← Option.isSome_none]
          exact congrArg Option.isSome found
        obtain ⟨same, problem⟩ := mixed ▸ set taken
        exact ⟨same, by simp [problem]⟩
    | some texts =>
      cases mapM_text?.mp found
      rw [heeded?, found, Option.filter_some]
      cases kept with
      | error refusal =>
        obtain ⟨setting, member, refuses⟩ := leaves
        cases ok
        have unheeded : ¬ IsHeeded texts := fun heeded => heeded setting (by simpa using member) refuses
        rw [if_neg (by simpa using unheeded)]
        exact ⟨rfl, by simp⟩
      | ok kept =>
        obtain ⟨rfl, harmless, clear⟩ := leaves
        have heeded : IsHeeded texts := fun setting member => harmless setting (List.mem_map_of_mem member)
        rw [if_pos (by simpa using heeded)]
        rw [filter_keepsEntry] at ok clear
        obtain ⟨next, taken, ok⟩ := Outcome.bind_eq_ok.mp ok
        cases ok
        cases loadPlainField_ofTexts taken
        refine ⟨rfl, ?_⟩
        rw [List.append_nil, clear]
        exact List.map_inj_right (by simp)
  · next other =>
    have unlisted : texts? value = none := by
      cases value with
      | list items => exact (other items rfl).elim
      | _ => rfl
    have refused : Kind.texts.admits value = false := by
      cases value with
      | list items => exact (other items rfl).elim
      | _ => rfl
    rw [heeded?, unlisted]
    exact refused ▸ set ok

theorem patternRefusal?_of_isPattern {setting : String} (pattern : isPattern setting = true) :
    patternRefusal? setting = .ok none := by
  rw [isPattern] at pattern
  rw [patternRefusal?]
  cases found : Pattern.ofSetting setting with
  | ok _ => rfl
  | error fault =>
    rw [found] at pattern
    cases pattern

theorem keepPatterns_of_patterns {texts : List String} (patterns : ∀ setting ∈ texts, isPattern setting = true)
    (path : String) (index : Nat) :
    keepPatterns path index (texts.map .text) = .ok (.ok (texts.map .text), []) := by
  induction texts generalizing index with
  | nil => rfl
  | cons first rest ih =>
    obtain ⟨head, tail⟩ := List.forall_mem_cons.mp patterns
    rw [List.map_cons, keepPatterns]
    refine Outcome.bind_eq_ok.mpr ⟨none, patternRefusal?_of_isPattern head, ?_⟩
    exact Outcome.bind_eq_ok.mpr ⟨_, ih tail (index + 1), rfl⟩

theorem loadSecretPatterns_of_patterns {texts : List String} (patterns : ∀ setting ∈ texts, isPattern setting = true)
    (path : String) (old : Config) : loadSecretPatterns path (.list (texts.map .text)) old =
      .ok ⟨{ old with secretPatterns := texts }, []⟩ := by
  have set : loadPlainField set? "secret_patterns" path (.list (texts.map .text)) old =
      .ok ⟨{ old with secretPatterns := texts }, []⟩ := by
    simp only [loadPlainField, set?, listField, strings_map_text]
    rfl
  refine Outcome.bind_eq_ok.mpr ⟨_, keepPatterns_of_patterns patterns path 0, ?_⟩
  exact Outcome.bind_eq_ok.mpr ⟨_, set, rfl⟩

end EnvAudit.Config
