import EnvAudit.Audit.Drift
import EnvAudit.Proofs.Declaration.Layers
import EnvAudit.Proofs.Template.Listing

/-! Templates generated again. The variables of a declaration file make a template that is read without a fault and
declares every name once, and what is read of it makes the same template: a shown value is read as it stands, it is no
secret where the value that it stands for was none, and it is shown as itself. -/
namespace EnvAudit.Template
open Declaration

section Values

def isSolid (value : String) : Bool := value.toList.all fun c => !Text.isBlank c && c != '\'' && c != '"'

theorem valueOf_of_isSolid {value : String} (solid : isSolid value = true) :
    valueOf value.toList = value.toList := by
  simp only [isSolid, List.all_eq_true, Bool.and_eq_true, Bool.not_eq_true', bne_iff_ne] at solid
  exact valueOf_of_solid (fun c member => (solid c member).1.1)
    fun c head => have own := solid c (List.mem_of_mem_head? head); ⟨own.1.2, own.2⟩

theorem isSolid_of_isHarmless {value : String} (harmless : isHarmless value = true) : isSolid value = true := by
  simp only [isSolid, List.all_eq_true, Bool.and_eq_true, Bool.not_eq_true', bne_iff_ne]
  refine fun c member => ⟨⟨Bool.eq_false_iff.mpr fun blank => ?_, ?_⟩, ?_⟩
  · have digitless : Text.isDigit c = false := by
      refine Bool.eq_false_iff.mpr fun digit => ?_
      rw [Text.isBlank_of_isDigit digit] at blank
      cases blank
    have solid : ∀ d ∈ "true".toList ++ "false".toList, (!Text.isBlank d) = true := List.all_eq_true.mp (by decide)
    have absent (d : Char) (listed : d ∈ "true".toList ++ "false".toList) : c ≠ d := by
      rintro rfl
      have inked := solid c listed
      rw [blank] at inked
      cases inked
    exact not_mem_of_isHarmless harmless digitless (Text.lowerWithin_of_isBlank blank)
      (fun own => absent c (List.mem_append_left _ own) rfl) (fun own => absent c (List.mem_append_right _ own) rfl)
      member
  · rintro rfl
    exact not_mem_of_isForeign harmless (by decide) member
  · rintro rfl
    exact not_mem_of_isForeign harmless (by decide) member

def urlShown : List String := "" :: urlExamples.map (·.2)

theorem example?_of_url {name : String} (url : namesUrl name = true) (value : String) :
    example? name value ∈ urlShown := by
  rw [example?, if_pos url]
  cases found : urlExamples.find? fun entry => beginsWith value entry.1 with
  | none => exact List.mem_cons_self
  | some entry => exact List.mem_cons_of_mem _ (List.mem_map_of_mem (List.mem_of_find?_eq_some found))

theorem example?_of_no_url {name : String} (other : namesUrl name = false) (value : String) :
    (isHarmless value = true ∧ example? name value = value) ∨
    (name = "NODE_ENV" ∧ example? name value = "development") ∨ example? name value = "" := by
  rw [example?, if_neg (by simp [other])]
  split
  · next harmless => exact .inl ⟨harmless, rfl⟩
  · split
    · next stage => exact .inr (.inl ⟨by simpa using stage, rfl⟩)
    · exact .inr (.inr rfl)

theorem isSolid_example? (name value : String) : isSolid (example? name value) = true := by
  cases url : namesUrl name with
  | true =>
    have solid : ∀ shown ∈ urlShown, isSolid shown = true := by decide
    exact solid _ (example?_of_url url value)
  | false =>
    rcases example?_of_no_url url value with ⟨harmless, same⟩ | ⟨_, same⟩ | same
    · rw [same]
      exact isSolid_of_isHarmless harmless
    · rw [same]
      decide
    · rw [same]
      rfl

theorem example?_example? (name value : String) : example? name (example? name value) = example? name value := by
  cases url : namesUrl name with
  | true =>
    have kept : ∀ shown ∈ urlShown,
        ((urlExamples.find? fun entry => beginsWith shown entry.1).map (·.2)).getD "" = shown := by decide
    have own := kept _ (example?_of_url url value)
    rwa [example?, if_pos url]
  | false =>
    have unnamed : ¬ namesUrl name = true := by simp [url]
    rcases example?_of_no_url url value with ⟨_, same⟩ | ⟨stage, same⟩ | same
    · rw [same, same]
    · have harmful : ¬ isHarmless "development" = true := by decide
      rw [same, example?, if_neg unnamed, if_neg harmful, if_pos (by simp [stage])]
    · rw [same, example?, if_neg unnamed, if_pos (by decide)]

theorem isLikely_of_name {name value shown : String} (plain : Secret.isLikely name value [] = false)
    (told : (shown != "" && Secret.valuePatterns.any (·.occursIn shown)) = false) :
    Secret.isLikely name shown [] = false := by
  rw [Secret.isLikely, Bool.or_eq_false_iff] at plain ⊢
  exact ⟨plain.1, told⟩

/-- An example looks like a credential only if the value that it stands for does. -/
theorem isLikely_example? {name value : String} (plain : Secret.isLikely name value [] = false) :
    Secret.isLikely name (example? name value) [] = false := by
  cases url : namesUrl name with
  | true =>
    have told : ∀ shown ∈ urlShown, (shown != "" && Secret.valuePatterns.any (·.occursIn shown)) = false := by
      decide +kernel
    exact isLikely_of_name plain (told _ (example?_of_url url value))
  | false =>
    rcases example?_of_no_url url value with ⟨_, same⟩ | ⟨_, same⟩ | same
    · exact (congrArg (Secret.isLikely name · []) same).trans plain
    · exact (congrArg (Secret.isLikely name · []) same).trans (isLikely_of_name plain (by decide +kernel))
    · exact (congrArg (Secret.isLikely name · []) same).trans (isLikely_of_name plain rfl)

theorem isSolid_shownValue (declaration : Declaration) : isSolid (shownValue true declaration) = true := by
  rw [shownValue]
  split
  · rfl
  · rw [if_neg (by decide)]
    split
    · rfl
    · exact isSolid_example? _ _

theorem IsReadBack.value_eq {declaration again : Declaration} (read : IsReadBack true declaration again) :
    again.value = shownValue true declaration := by
  rw [read.value, valueOf_of_isSolid (isSolid_shownValue declaration), String.ofList_toList]

theorem shownValue_readBack {declaration again : Declaration} (read : IsReadBack true declaration again)
    (judged : declaration.isSecret = Secret.isLikely declaration.name declaration.value []) :
    shownValue true again = shownValue true declaration := by
  have value := read.value_eq
  have secret := read.isSecret
  rw [read.name, value] at secret
  by_cases empty : shownValue true declaration = ""
  · rw [empty] at value ⊢
    rw [shownValue, value]
    rfl
  · -- Only a value that is set and no secret is shown at all.
    have shown : declaration.isSecret = false ∧
        shownValue true declaration = example? declaration.name declaration.value := by
      rw [shownValue] at empty ⊢
      split at empty
      · exact absurd rfl empty
      · next set =>
        rw [if_neg (by decide)] at empty
        split at empty
        · exact absurd rfl empty
        · next plain => exact ⟨by simpa using plain, by rw [if_neg set, if_neg (by decide), if_neg plain]⟩
    obtain ⟨plain, shown⟩ := shown
    rw [shown, isLikely_example? (judged.symm.trans plain)] at secret
    rw [shownValue, if_neg (by simpa [value] using empty), if_neg (by decide), if_neg (by simp [secret]), read.name,
      value, shown, example?_example?]

end Values

section Order
variable {options : Options} {declarations others : List Declaration}

def row (options : Options) (declaration : Declaration) : String × String :=
  (declaration.name, lineOf options.maskSecrets declaration)

theorem nodup_of_names (unique : (names declarations).Nodup) : declarations.Nodup := .of_map _ unique

theorem sorted_perm (declarations : List Declaration) : (sorted declarations).Perm declarations :=
  List.mergeSort_perm _ _

theorem sorted_increasing (unique : (names declarations).Nodup) :
    (sorted declarations).Pairwise fun a b => a.name < b.name := by
  have ordered : (sorted declarations).Pairwise fun a b => decide (a.name ≤ b.name) = true := by
    apply List.pairwise_mergeSort
    · intro a b c first second
      simp only [decide_eq_true_eq] at first second ⊢
      exact String.le_trans first second
    · intro a b
      simpa using String.le_total a.name b.name
  have single : (sorted declarations).Pairwise fun a b => a.name ≠ b.name :=
    List.pairwise_map.mp (((sorted_perm declarations).map _).nodup_iff.mpr unique)
  apply ordered.imp₂ _ single
  intro a b below differs
  apply Classical.byContradiction
  intro above
  exact differs (String.le_antisymm (of_decide_eq_true below) (String.not_lt.mp above))

/-- The rows of variables with distinct names do not depend on the order in which they are given. -/
theorem map_row_sorted (unique : (names declarations).Nodup) (unique' : (names others).Nodup)
    (same : (declarations.map (row options)).Perm (others.map (row options))) :
    (sorted declarations).map (row options) = (sorted others).map (row options) := by
  have increasing {ds : List Declaration} (unique : (names ds).Nodup) :
      ((sorted ds).map (row options)).Pairwise fun a b => a.1 < b.1 :=
    List.pairwise_map.mpr (sorted_increasing unique)
  refine List.Perm.eq_of_pairwise ?_ (increasing unique) (increasing unique') ?_
  · intro a b _ _ below above
    exact absurd above (String.lt_asymm below)
  · exact (((sorted_perm declarations).map _).trans same).trans ((sorted_perm others).map _).symm

theorem map_groupOf (declarations : List Declaration) :
    declarations.map (fun d => groupOf d.name) = (declarations.map (row options)).map (groupOf ·.1) := by
  rw [List.map_map]
  rfl

theorem map_lineOf_filter (group : String) (declarations : List Declaration) :
    (declarations.filter fun d => groupOf d.name == group).map (lineOf options.maskSecrets) =
      ((declarations.map (row options)).filter fun r => groupOf r.1 == group).map (·.2) := by
  rw [List.filter_map, List.map_map]
  rfl

theorem body_congr (same : declarations.map (row options) = others.map (row options)) :
    body options declarations = body options others := by
  rw [body, body, map_groupOf declarations, map_groupOf others, same]
  split
  · apply List.flatMap_congr
    intro group _
    rw [groupLines, groupLines, map_lineOf_filter, map_lineOf_filter, same]
  · have lines (ds : List Declaration) :
        ds.map (lineOf options.maskSecrets) = (ds.map (row options)).map (·.2) := by
      rw [List.map_map]
      rfl
    rw [lines, lines, same]

theorem generate_congr (unique : (names declarations).Nodup) (unique' : (names others).Nodup)
    (same : (declarations.map (row options)).Perm (others.map (row options))) :
    generate options declarations = generate options others := by
  rw [generate, generate, body_congr (map_row_sorted unique unique' same)]

theorem listed_perm (unique : declarations.Nodup) : (listed options declarations).Perm declarations := by
  have once : (listed options declarations).Nodup := by
    rw [listed]
    split
    · refine List.nodup_flatMap.mpr ⟨fun group _ => unique.filter _, ?_⟩
      have groups : (sortStrings (Text.distinct (declarations.map fun d => groupOf d.name))).Nodup :=
        (List.mergeSort_perm _ _).nodup_iff.mpr (Text.nodup_distinct _)
      refine groups.imp fun differ d early late => ?_
      have first := (List.mem_filter.mp early).2
      have second := (List.mem_filter.mp late).2
      exact differ ((beq_iff_eq.mp first).symm.trans (beq_iff_eq.mp second))
    · exact unique
  exact (List.perm_ext_iff_of_nodup once unique).mpr fun d => mem_listed

end Order

theorem map_row_readBack {options : Options} (masked : options.maskSecrets = true)
    {declarations declared : List Declaration} (same : List.Forall₂ (IsReadBack true) declarations declared)
    (judged : ∀ d ∈ declarations, d.isSecret = Secret.isLikely d.name d.value []) :
    declared.map (row options) = declarations.map (row options) := by
  induction same with
  | nil => rfl
  | cons own _ ih =>
    obtain ⟨head, tail⟩ := List.forall_mem_cons.mp judged
    rw [List.map_cons, List.map_cons, ih tail, row, row, masked, lineOf, lineOf, own.name,
      shownValue_readBack own head]

theorem lacking_eq_nil {here there : List Declaration} (all : ∀ name ∈ names here, name ∈ names there)
    (ignore : List String) : Drift.lacking ignore here there = [] := by
  refine List.filter_eq_nil_iff.mpr fun d member => ?_
  have declared : declares there d.name = true := List.contains_iff_mem.mpr (all _ (List.mem_map_of_mem member))
  simp [declared]

/-- The variables of a declaration file, of every name the last one, make a template that is read without a fault,
declares each of their names once and is in sync with them, and what is read of it makes the same template. -/
theorem generate_again {text : List Char} {file : String} {given : Declarations} (ok : parse text file = .ok given)
    {options : Options} (masked : options.maskSecrets = true) (label templateFile : String) (ignore : List String) :
    ∃ again, parse (generate options (keepLast given.declared)).toList label = .ok again ∧ again.faults = [] ∧
      (names again.declared).Nodup ∧ (∀ name, name ∈ names again.declared ↔ name ∈ names given.declared) ∧
      (Drift.compare (keepLast given.declared) again.declared templateFile ignore).inSync = true ∧
      generate options again.declared = generate options (keepLast given.declared) := by
  have unique := nodup_names_keepLast given.declared
  have valid : ∀ d ∈ keepLast given.declared, isName d.name.toList = true := fun d member =>
    (reports_of_ofLines ok).isName_of_mem (List.mem_map_of_mem (mem_of_mem_keepLast member))
  have judged : ∀ d ∈ keepLast given.declared, d.isSecret = Secret.isLikely d.name d.value [] := fun d member =>
    isSecret_of_ofLines ok (mem_of_mem_keepLast member)
  obtain ⟨again, ok', faultless, readBack⟩ := parse_generate_readBack masked valid label
  have placed : (listed options (sorted (keepLast given.declared))).Perm (keepLast given.declared) :=
    (listed_perm ((sorted_perm _).nodup_iff.mpr (nodup_of_names unique))).trans (sorted_perm _)
  have named : (names again.declared).Perm (names (keepLast given.declared)) := by
    rw [names_readBack readBack]
    exact placed.map _
  have same (name : String) : name ∈ names again.declared ↔ name ∈ names (keepLast given.declared) := named.mem_iff
  refine ⟨again, ok', faultless, named.nodup_iff.mpr unique, fun name => (same name).trans mem_names_keepLast, ?_, ?_⟩
  · rw [Drift.Report.inSync, Drift.compare, lacking_eq_nil fun name => (same name).mpr,
      lacking_eq_nil fun name => (same name).mp]
    rfl
  · refine generate_congr (named.nodup_iff.mpr unique) unique ?_
    rw [map_row_readBack masked readBack fun d member => judged d (placed.mem_iff.mp member)]
    exact placed.map _

def varied : String :=
  "APP_FLAG=1 # off\nAPI_URL='http://h/x'\nDB_PASSWORD=pw\nNODE_ENV=test\nPORT=\u0663\nAPP_FLAG=\"True\""

theorem generate_again_varied : ∃ given again, parse varied.toList ".env" = .ok given ∧
    names (keepLast given.declared) = ["API_URL", "DB_PASSWORD", "NODE_ENV", "PORT", "APP_FLAG"] ∧
    (keepLast given.declared).map (shownValue true) = ["https://example.com", "", "development", "\u0663", "True"] ∧
    parse (generate {} (keepLast given.declared)).toList ".env.example" = .ok again ∧ again.faults = [] ∧
    (names again.declared).Nodup ∧ (∀ name, name ∈ names again.declared ↔ name ∈ names given.declared) ∧
    (Drift.compare (keepLast given.declared) again.declared ".env.example" []).inSync = true ∧
    generate {} again.declared = generate {} (keepLast given.declared) := by
  have read : (parse varied.toList ".env").toOption.map (fun given => (names (keepLast given.declared),
      (keepLast given.declared).map (shownValue true))) =
        some (["API_URL", "DB_PASSWORD", "NODE_ENV", "PORT", "APP_FLAG"],
          ["https://example.com", "", "development", "\u0663", "True"]) := by
    decide +kernel
  obtain ⟨given, ok, same⟩ := Option.map_eq_some_iff.mp read
  obtain ⟨named, shown⟩ := Prod.mk.inj same
  have ok := Outcome.eq_ok_of_toOption ok
  have masked : ({} : Options).maskSecrets = true := rfl
  obtain ⟨again, ok', rest⟩ := generate_again ok masked ".env.example" ".env.example" []
  exact ⟨given, again, ok, named, shown, ok', rest⟩

end EnvAudit.Template
