import EnvAudit.Proofs.Declaration.Layers

/-! What layers leave of each other. Of the records of a name only the last one survives, at its own place, and it makes
no difference whether files are read at once or in two groups whose results are put together in the same way. -/
namespace EnvAudit.Declaration
open Logged

/-- Which of some records survive: those behind which no record has the same name. -/
inductive Survive : List Declaration → List Declaration → Prop
  | done : Survive [] []
  | replaced {first : Declaration} {rest kept : List Declaration} (again : first.name ∈ names rest)
    (others : Survive rest kept) : Survive (first :: rest) kept
  | last {first : Declaration} {rest kept : List Declaration} (never : first.name ∉ names rest)
    (others : Survive rest kept) : Survive (first :: rest) (first :: kept)

theorem names_append (first second : List Declaration) : names (first ++ second) = names first ++ names second :=
  List.map_append

section Records
variable {declarations first second kept other front back : List Declaration}

theorem Survive.unique (survive : Survive declarations kept) (also : Survive declarations other) : kept = other := by
  induction survive generalizing other with
  | done =>
    cases also
    rfl
  | replaced again _ ih =>
    cases also with
    | replaced _ others => exact ih others
    | last never => exact absurd again never
  | last never _ ih =>
    cases also with
    | replaced again => exact absurd again never
    | last _ others => rw [ih others]

theorem Survive.append (survive : Survive first front) (behind : Survive second back) :
    Survive (first ++ second) (front.filter (fun d => d.name ∉ names second) ++ back) := by
  induction survive with
  | done => exact behind
  | @replaced own rest kept again _ ih =>
    refine .replaced ?_ ih
    rw [List.append_eq, names_append]
    exact List.mem_append_left _ again
  | @last own rest kept never _ ih =>
    by_cases later : own.name ∈ names second
    · rw [List.filter_cons_of_neg (by simpa using later)]
      refine .replaced ?_ ih
      rw [List.append_eq, names_append]
      exact List.mem_append_right _ later
    · rw [List.filter_cons_of_pos (by simpa using later)]
      refine .last ?_ ih
      rw [List.append_eq, names_append, List.mem_append]
      exact not_or.mpr ⟨never, later⟩

theorem Survive.of_nodup (distinct : (names declarations).Nodup) : Survive declarations declarations := by
  induction declarations with
  | nil => exact .done
  | cons own rest ih =>
    obtain ⟨never, distinct⟩ := List.nodup_cons.mp distinct
    exact .last never (ih distinct)

theorem survive_keepLast (declarations : List Declaration) : Survive declarations (keepLast declarations) := by
  induction declarations using List.reverseRecOn with
  | nil => exact .done
  | append_singleton declarations next ih =>
    have alone : Survive [next] [next] := .last List.not_mem_nil .done
    have goes : (keepLast declarations).filter (·.name != next.name) =
        (keepLast declarations).filter (fun d => d.name ∉ names [next]) := by
      refine List.filter_congr fun d _ => ?_
      simp [names, bne, beq_eq_decide]
    rw [keepLast_concat, goes]
    exact ih.append alone

theorem survive_iff : Survive declarations kept ↔ kept = keepLast declarations :=
  ⟨fun survive => survive.unique (survive_keepLast declarations), fun same => same ▸ survive_keepLast declarations⟩

/-- Records that are merged with others may be merged among themselves before. -/
theorem keepLast_keepLast_append (first second : List Declaration) :
    keepLast (keepLast first ++ keepLast second) = keepLast (first ++ second) := by
  have among (records : List Declaration) : Survive (keepLast records) (keepLast records) :=
    .of_nodup (nodup_names_keepLast records)
  have own := (among first).append (among second)
  have all := (survive_keepLast first).append (survive_keepLast second)
  simp only [mem_names_keepLast] at own
  exact (survive_iff.mp own).symm.trans (survive_iff.mp all)

end Records

theorem merged_append (first second : List Declarations) :
    merged (first ++ second) = merged [merged first, merged second] := by
  simp [merged, keepLast_keepLast_append]

variable {disk : Disk} {root : Path}

theorem readFiles_eq_ok {paths : List String} {found : Declarations} :
    (readFiles disk root paths).outcome.1 = .ok found ↔
      ∃ parts, List.Forall₂ (fun path part => (readFile disk root path).outcome.1 = .ok part) paths parts ∧
        found = merged parts := by
  simp only [(readFile_yields disk root _).outcome_eq, (readFiles_yields disk root paths).outcome_eq,
    Outcome.bind_eq_ok, Outcome.mapM_eq_ok]
  constructor
  · rintro ⟨parts, given, same⟩
    cases same
    exact ⟨parts, given, rfl⟩
  · rintro ⟨parts, given, rfl⟩
    exact ⟨parts, given, rfl⟩

/-- Reading files gives a result exactly when every file does that can be read. The result declares every name once, by
the last record of the name that any of the files gives and in the order of those records, with the faults of all files
one after another. Files that are read in two groups give the same if the two results are merged in the same way. -/
theorem readFiles_layered (disk : Disk) (root : Path) :
    (∀ paths, Returns (readFiles disk root paths).outcome.1 ↔ ∀ path ∈ paths, CanRead disk root path) ∧
    (∀ paths found, (readFiles disk root paths).outcome.1 = .ok found ↔
      ∃ parts, List.Forall₂ (fun path part => (readFile disk root path).outcome.1 = .ok part) paths parts ∧
        Survive (parts.flatMap (·.declared)) found.declared ∧ (names found.declared).Nodup ∧
        found.faults = parts.flatMap (·.faults)) ∧
    ∀ first second found, (readFiles disk root (first ++ second)).outcome.1 = .ok found ↔
      ∃ before after, (readFiles disk root first).outcome.1 = .ok before ∧
        (readFiles disk root second).outcome.1 = .ok after ∧ found = merged [before, after] := by
  refine ⟨fun paths => ?_, fun paths found => ?_, fun first second found => ?_⟩
  · exact (isReadByFiles disk root paths).returns
  · refine readFiles_eq_ok.trans (exists_congr fun parts => and_congr_right fun _ => ?_)
    constructor
    · rintro rfl
      exact ⟨survive_keepLast _, nodup_names_keepLast _, rfl⟩
    · rintro ⟨survive, _, faults⟩
      rw [merged, ← survive_iff.mp survive, ← faults]
  · simp only [readFiles_eq_ok]
    constructor
    · rintro ⟨parts, given, rfl⟩
      have before := (List.forall₂_take_append parts first second given.flip).flip
      have after := (List.forall₂_drop_append parts first second given.flip).flip
      refine ⟨_, _, ⟨_, before, rfl⟩, ⟨_, after, rfl⟩, ?_⟩
      rw [← merged_append, List.take_append_drop]
    · rintro ⟨_, _, ⟨early, before, rfl⟩, ⟨late, after, rfl⟩, rfl⟩
      exact ⟨early ++ late, List.rel_append before after, (merged_append early late).symm⟩

end EnvAudit.Declaration
