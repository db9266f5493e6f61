import EnvAudit.Proofs.Text.Basic
import EnvAudit.Template
import Mathlib.Data.List.Perm.Basic

/-! What a template tells of a value. Two templates whose variables differ in one place only differ exactly where the
shown values of that place do: everything else is decided by the names. -/
namespace EnvAudit

/-- Two lists that are equal but for one place. -/
def Apart {α : Type} (item other : α) (first second : List α) : Prop :=
  ∃ before after, first = before ++ item :: after ∧ second = before ++ other :: after

namespace Apart
variable {α β : Type} {item other : α} {first second : List α}

theorem append_left (apart : Apart item other first second) (front : List α) :
    Apart item other (front ++ first) (front ++ second) := by
  obtain ⟨before, after, rfl, rfl⟩ := apart
  exact ⟨front ++ before, after, by simp, by simp⟩

theorem append_right (apart : Apart item other first second) (rest : List α) :
    Apart item other (first ++ rest) (second ++ rest) := by
  obtain ⟨before, after, rfl, rfl⟩ := apart
  exact ⟨before, after ++ rest, by simp, by simp⟩

theorem map (apart : Apart item other first second) (f : α → β) :
    Apart (f item) (f other) (first.map f) (second.map f) := by
  obtain ⟨before, after, rfl, rfl⟩ := apart
  exact ⟨before.map f, after.map f, by simp, by simp⟩

theorem map_eq (apart : Apart item other first second) {f : α → β} (same : f item = f other) :
    first.map f = second.map f := by
  obtain ⟨before, after, rfl, rfl⟩ := apart
  simp [same]

theorem filter (apart : Apart item other first second) {keep : α → Bool} (kept : keep item = true)
    (kept' : keep other = true) : Apart item other (first.filter keep) (second.filter keep) := by
  obtain ⟨before, after, rfl, rfl⟩ := apart
  exact ⟨before.filter keep, after.filter keep, by simp [kept], by simp [kept']⟩

theorem filter_eq (apart : Apart item other first second) {keep : α → Bool} (dropped : keep item = false)
    (dropped' : keep other = false) : first.filter keep = second.filter keep := by
  obtain ⟨before, after, rfl, rfl⟩ := apart
  simp [dropped, dropped']

theorem mem (apart : Apart item other first second) : item ∈ first := by
  obtain ⟨before, after, rfl, rfl⟩ := apart
  simp

theorem mem_right (apart : Apart item other first second) : other ∈ second := by
  obtain ⟨before, after, rfl, rfl⟩ := apart
  simp

theorem flatMap {items : List β} {part part' : β → List α} {own : β} (unique : items.Nodup) (member : own ∈ items)
    (apart : Apart item other (part own) (part' own)) (same : ∀ i ∈ items, i ≠ own → part i = part' i) :
    Apart item other (items.flatMap part) (items.flatMap part') := by
  obtain ⟨before, after, rfl⟩ := List.append_of_mem member
  have absent : own ∉ before ∧ own ∉ after := by
    have split := List.nodup_append.mp unique
    refine ⟨fun early => split.2.2 own early own List.mem_cons_self rfl, ?_⟩
    exact (List.nodup_cons.mp split.2.1).1
  have early : before.flatMap part = before.flatMap part' := by
    apply List.flatMap_congr
    intro i listed
    exact same i (List.mem_append_left _ listed) fun equal => absent.1 (equal ▸ listed)
  have late : after.flatMap part = after.flatMap part' := by
    apply List.flatMap_congr
    intro i listed
    exact same i (List.mem_append_right _ (List.mem_cons_of_mem own listed)) fun equal => absent.2 (equal ▸ listed)
  rw [List.flatMap_append, List.flatMap_append, List.flatMap_cons, List.flatMap_cons, early, late]
  exact (apart.append_right _).append_left _

theorem of_pairs {pairs : List (α × α)} {rest : List α}
    (permuted : pairs.Perm ((item, other) :: rest.map fun a => (a, a))) :
    Apart item other (pairs.map Prod.fst) (pairs.map Prod.snd) := by
  have listed : (item, other) ∈ pairs := permuted.mem_iff.mpr List.mem_cons_self
  obtain ⟨before, after, rfl⟩ := List.append_of_mem listed
  have remaining : (before ++ after).Perm (rest.map fun a => (a, a)) :=
    (List.perm_middle.symm.trans permuted).cons_inv
  have same (pair : α × α) (member : pair ∈ before ++ after) : pair.1 = pair.2 := by
    obtain ⟨a, _, rfl⟩ := List.mem_map.mp (remaining.mem_iff.mp member)
    rfl
  have early : before.map Prod.fst = before.map Prod.snd :=
    List.map_congr_left fun pair member => same pair (List.mem_append_left _ member)
  have late : after.map Prod.fst = after.map Prod.snd :=
    List.map_congr_left fun pair member => same pair (List.mem_append_right _ member)
  exact ⟨before.map Prod.fst, after.map Prod.fst, by simp, by simp [early, late]⟩

theorem mergeSort (apart : Apart item other first second) {before : α → α → Bool}
    (alike : ∀ a, before item a = before other a ∧ before a item = before a other) :
    Apart item other (first.mergeSort before) (second.mergeSort before) := by
  obtain ⟨front, back, rfl, rfl⟩ := apart
  have twice (items : List α) (side : α × α → α) (diagonal : ∀ a, side (a, a) = a) :
      (items.map fun a => (a, a)).map side = items := by
    simp [Function.comp_def, diagonal]
  -- Both lists are sorted at once, as the two sides of a list of pairs.
  obtain ⟨pairs, built⟩ : ∃ pairs, pairs = front.map (fun a => (a, a)) ++ (item, other) :: back.map fun a => (a, a) :=
    ⟨_, rfl⟩
  have firsts : pairs.map Prod.fst = front ++ item :: back := by
    rw [built, List.map_append, List.map_cons, twice front _ fun _ => rfl, twice back _ fun _ => rfl]
  have seconds : pairs.map Prod.snd = front ++ other :: back := by
    rw [built, List.map_append, List.map_cons, twice front _ fun _ => rfl, twice back _ fun _ => rfl]
  have permuted : pairs.Perm ((item, other) :: (front ++ back).map fun a => (a, a)) := by
    rw [built, List.map_append]
    exact List.perm_middle
  have same (pair : α × α) (member : pair ∈ pairs) : pair.1 = pair.2 ∨ pair = (item, other) := by
    rcases List.mem_cons.mp (permuted.mem_iff.mp member) with own | twin
    · exact .inr own
    · obtain ⟨a, _, rfl⟩ := List.mem_map.mp twin
      exact .inl rfl
  have order (a b : α × α) (member : a ∈ pairs) (member' : b ∈ pairs) : before a.1 b.1 = before a.2 b.2 := by
    rcases same a member with equal | rfl <;> rcases same b member' with equal' | rfl
    · rw [equal, equal']
    · rw [equal, (alike a.2).2]
    · rw [equal', (alike b.2).1]
    · exact (alike item).1.trans (alike other).2
  have left := List.map_mergeSort (f := Prod.fst) (r := fun a b => before a.1 b.1) (s := before)
    fun a (_ : a ∈ pairs) b _ => rfl
  have right := List.map_mergeSort (f := Prod.snd) (r := fun a b => before a.1 b.1) (s := before)
    fun a member b member' => order a b member member'
  rw [firsts] at left
  rw [seconds] at right
  rw [← left, ← right]
  exact of_pairs ((List.mergeSort_perm pairs _).trans permuted)

end Apart

/-- Texts joined from parts that are apart in one place are equal when the parts of this place are. -/
theorem Text.join_eq_iff_of_apart {sep part part' : List Char} {parts parts' : List (List Char)}
    (apart : Apart part part' parts parts') : join sep parts = join sep parts' ↔ part = part' := by
  obtain ⟨before, after, rfl, rfl⟩ := apart
  have tail (part : List Char) : ∃ rest, join sep (part :: after) = part ++ rest ∧
      ∀ other, join sep (other :: after) = other ++ rest := by
    cases after with
    | nil => exact ⟨[], by simp [join], by simp [join]⟩
    | cons next others => exact ⟨sep ++ join sep (next :: others), by simp [join], by simp [join]⟩
  obtain ⟨rest, own, others⟩ := tail part
  cases before with
  | nil =>
    rw [List.nil_append, List.nil_append, own, others part']
    exact List.append_left_inj rest
  | cons head more =>
    rw [join_append sep (List.cons_ne_nil head more) (List.cons_ne_nil part after),
      join_append sep (List.cons_ne_nil head more) (List.cons_ne_nil part' after), own, others part',
      List.append_right_inj]
    exact List.append_left_inj rest

namespace Template
variable {declaration changed : Declaration} {declarations declarations' : List Declaration}

theorem groupLines_apart (apart : Apart declaration changed declarations declarations')
    (named : declaration.name = changed.name) (options : Options) :
    Apart (lineOf options.maskSecrets declaration) (lineOf options.maskSecrets changed)
      (groupLines options declarations (groupOf declaration.name))
      (groupLines options declarations' (groupOf declaration.name)) := by
  let isOwn : Declaration → Bool := fun d => groupOf d.name == groupOf declaration.name
  have own : isOwn declaration = true := beq_self_eq_true _
  have own' : isOwn changed = true := by simp [isOwn, named]
  have listed := (apart.filter own own').map (lineOf options.maskSecrets)
  exact (listed.append_left _).append_right _

theorem groupLines_eq (apart : Apart declaration changed declarations declarations')
    (named : declaration.name = changed.name) (options : Options) {group : String}
    (other : group ≠ groupOf declaration.name) :
    groupLines options declarations group = groupLines options declarations' group := by
  have foreign : (groupOf declaration.name == group) = false := by simpa using Ne.symm other
  have foreign' : (groupOf changed.name == group) = false := by rwa [← named]
  rw [groupLines, groupLines, apart.filter_eq foreign foreign']

theorem body_apart (apart : Apart declaration changed declarations declarations')
    (named : declaration.name = changed.name) (options : Options) :
    Apart (lineOf options.maskSecrets declaration) (lineOf options.maskSecrets changed) (body options declarations)
      (body options declarations') := by
  have groups : declarations.map (fun d => groupOf d.name) = declarations'.map fun d => groupOf d.name :=
    apart.map_eq (congrArg groupOf named)
  rw [body, body, ← groups]
  split
  · apply Apart.flatMap
    · exact (List.mergeSort_perm _ _).nodup_iff.mpr (Text.nodup_distinct _)
    · rw [mem_sortStrings, Text.mem_distinct]
      exact List.mem_map_of_mem apart.mem
    · exact groupLines_apart apart named options
    · intro group _ other
      exact groupLines_eq apart named options other
  · exact apart.map _

theorem generate_eq_iff (apart : Apart declaration changed declarations declarations')
    (named : declaration.name = changed.name) (options : Options) :
    generate options declarations = generate options declarations' ↔
      shownValue options.maskSecrets declaration = shownValue options.maskSecrets changed := by
  have sorts : Apart declaration changed (sorted declarations) (sorted declarations') := by
    apply apart.mergeSort
    intro a
    rw [named]
    exact ⟨rfl, rfl⟩
  have lines := ((body_apart sorts named options).append_left (if options.includeComments then header else [])).map
    String.toList
  rw [generate, generate, joinWith, joinWith, String.ofList_inj, Text.join_eq_iff_of_apart lines, String.toList_inj,
    lineOf, lineOf, named]
  exact String.append_right_inj _

end Template
end EnvAudit
