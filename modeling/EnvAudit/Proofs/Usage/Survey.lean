import EnvAudit.Proofs.Disk.Outline
import EnvAudit.Proofs.Glob.Pruning
import EnvAudit.Proofs.Usage.Recognition

/-! What a scan of files gives. Every chosen file gives either its usages or one fault, and what the files give is put
together in their order. A scan that is not cancelled returns exactly when every chosen file that can be read can be
scanned, and the bytes of a file matter to nothing but what this file gives. -/
namespace EnvAudit.Usage
open Logged

def contribution (disk : Disk) (root : Path) (framework : Framework) (file : String) : Except Failure Survey :=
  match disk.readText (root.child file) with
  | .error fault => .ok { faults := [⟨file, fault.message⟩], filesScanned := 1 }
  | .ok text => do return { usages := ← ofSource ⟨file, framework⟩ text, filesScanned := 1 }

variable {disk : Disk} {root : Path} {framework : Framework} {file : String}

theorem surveyFile_yields (disk : Disk) (root : Path) (framework : Framework) (file : String) :
    Yields (surveyFile disk root framework file) (contribution disk root framework file) := by
  unfold surveyFile contribution
  cases disk.readText (root.child file) with
  | error fault => exact yields_report.bind fun _ => yields_pure _
  | ok text => exact (scan_yields ⟨file, framework⟩ text).bind fun _ => yields_pure _

def CanScan (disk : Disk) (root : Path) (file : String) : Prop :=
  ∀ text, disk.readText (root.child file) = .ok text → IsScannable file text

theorem contribution_returns : Returns (contribution disk root framework file) ↔ CanScan disk root file := by
  unfold contribution CanScan
  cases disk.readText (root.child file) with
  | error fault => exact iff_of_true (Outcome.returns_ok _) (by rintro _ ⟨⟩)
  | ok text =>
    refine Outcome.returns_map.trans (ofSource_returns.trans ?_)
    constructor
    · rintro scannable _ ⟨⟩
      exact scannable
    · exact fun scannable => scannable text rfl

/-- Whether a file gives usages without a fault, or a single fault and no usage. -/
structure IsAnswer (file : String) (part : Survey) : Prop where
  once : part.filesScanned = 1
  either : part.faults = [] ∨ part.usages = [] ∧ ∃ message, part.faults = [⟨file, message⟩]

theorem contribution_isAnswer {part : Survey} (ok : contribution disk root framework file = .ok part) :
    IsAnswer file part := by
  unfold contribution at ok
  cases read : disk.readText (root.child file) with
  | error fault =>
    rw [read] at ok
    cases ok
    exact ⟨rfl, .inr ⟨rfl, _, rfl⟩⟩
  | ok text =>
    rw [read] at ok
    obtain ⟨usages, _, same⟩ := Outcome.bind_eq_ok.mp ok
    cases same
    exact ⟨rfl, .inl rfl⟩

theorem foldl_append {parts : List Survey} (once : ∀ part ∈ parts, part.filesScanned = 1) (first : Survey) :
    parts.foldl Survey.append first =
      ⟨first.usages ++ parts.flatMap (·.usages), first.faults ++ parts.flatMap (·.faults),
        first.filesScanned + parts.length⟩ := by
  induction parts generalizing first with
  | nil => simp
  | cons part rest ih =>
    obtain ⟨single, once⟩ := List.forall_mem_cons.mp once
    rw [List.foldl_cons, ih once]
    simp [Survey.append, single, Nat.add_assoc, Nat.add_comm 1]

structure IsMerged (disk : Disk) (root : Path) (framework : Framework) (files : List String) (result : Survey) :
    Prop where
  count : result.filesScanned = files.length
  parts : ∃ parts, List.Forall₂ (fun file part => contribution disk root framework file = .ok part) files parts ∧
    result.usages = parts.flatMap (·.usages) ∧ result.faults = parts.flatMap (·.faults)

theorem survey_yields (disk : Disk) (root : Path) (included excluded : List String) (framework : Framework) :
    Yields (survey disk root included excluded framework false) (do
      let parts ← (← chosen disk root included excluded).mapM (contribution disk root framework)
      return parts.foldl Survey.append {}) := by
  have merged (files : List String) := (yields_mapM (surveyFile_yields disk root framework) files).bind fun parts =>
    yields_pure (parts.foldl Survey.append {})
  exact (chosenFiles_yields disk root included excluded).bind fun files => yields_report.bind fun _ => merged files

theorem IsMerged.of_parts {files : List String} {parts : List Survey}
    (given : List.Forall₂ (fun file part => contribution disk root framework file = .ok part) files parts) :
    IsMerged disk root framework files (parts.foldl Survey.append {}) := by
  have once : ∀ part ∈ parts, part.filesScanned = 1 := by
    induction given with
    | nil => simp
    | cons ok _ ih => exact List.forall_mem_cons.mpr ⟨(contribution_isAnswer ok).once, ih⟩
  rw [foldl_append once]
  refine ⟨?_, parts, given, List.nil_append _, List.nil_append _⟩
  rw [Nat.zero_add, given.length_eq]

theorem chosen_outline (disk : Disk) (root : Path) (included excluded : List String) :
    chosen disk root included excluded = (do
      let globs ← Glob.globs (included.map String.toList)
      match (disk.find? root).map FileTree.outline with
      | .ok (.directory entries) => Glob.select globs (excluded.map String.toList) entries
      | _ => return []) := by
  refine congrArg _ (funext fun globs => ?_)
  cases disk.find? root with
  | error fault => rfl
  | ok tree =>
    cases tree with
    | file bytes => rfl
    | directory entries =>
      simp only [Except.map, FileTree.outline, Glob.select, FileTree.searchEntries_outline]

theorem chosen_withBytes {names : List String} {old : List Nat} (stands : disk.tree.at? names = some (.file old))
    (new : List Nat) (root : Path) (included excluded : List String) :
    chosen (disk.withBytes names new) root included excluded = chosen disk root included excluded := by
  rw [chosen_outline, Disk.find?_withBytes new stands, ← chosen_outline]

/-- A scan that is not cancelled returns exactly when the files can be chosen and every chosen file that can be read can
be scanned. It counts the chosen files and puts together what they give in their order, for every file its usages or one
fault. Other bytes in a file change neither which files are chosen nor what any path to another file gives. -/
theorem survey_exact (disk : Disk) (root : Path) (included excluded : List String) (framework : Framework) :
    (Returns (survey disk root included excluded framework false).outcome.1 ↔
      CanChoose disk root included excluded ∧
        ∀ files, (chosenFiles disk root included excluded).outcome.1 = .ok files →
          ∀ file ∈ files, CanScan disk root file) ∧
    (∀ files, (chosenFiles disk root included excluded).outcome.1 = .ok files → files.Pairwise (· < ·) ∧
      ∀ result, (survey disk root included excluded framework false).outcome.1 = .ok result →
        IsMerged disk root framework files result) ∧
    (∀ file part, contribution disk root framework file = .ok part → IsAnswer file part) ∧
    ∀ names old new, disk.tree.at? names = some (.file old) →
      (chosenFiles (disk.withBytes names new) root included excluded).outcome.1 =
        (chosenFiles disk root included excluded).outcome.1 ∧
      ∀ file, disk.locate (root.child file) ≠ .ok names →
        contribution (disk.withBytes names new) root framework file = contribution disk root framework file := by
  rw [(chosenFiles_yields _ _ _ _).outcome_eq, (survey_yields _ _ _ _ _).outcome_eq]
  refine ⟨?_, ?_, fun file part ok => contribution_isAnswer ok, ?_⟩
  · rw [Outcome.returns_bind, ← chosen_returns]
    have scanned (files : List String) : Returns (do
        let parts ← files.mapM (contribution disk root framework)
        return parts.foldl Survey.append {}) ↔ ∀ file ∈ files, CanScan disk root file := by
      refine Outcome.returns_map.trans (Outcome.mapM_returns.trans ?_)
      simp only [contribution_returns]
    simp only [scanned]
    constructor
    · rintro ⟨files, ok, each⟩
      refine ⟨⟨files, ok⟩, fun others same => ?_⟩
      cases ok.symm.trans same
      exact each
    · rintro ⟨⟨files, ok⟩, each⟩
      exact ⟨files, ok, each files ok⟩
  · intro files ok
    refine ⟨chosen_increasing ok, fun result given => ?_⟩
    obtain ⟨others, same, merged⟩ := Outcome.bind_eq_ok.mp given
    cases ok.symm.trans same
    obtain ⟨parts, each, same⟩ := Outcome.bind_eq_ok.mp merged
    cases same
    exact .of_parts (Outcome.mapM_eq_ok.mp each)
  · intro names old new stands
    refine ⟨?_, fun file other => ?_⟩
    · rw [(chosenFiles_yields _ _ _ _).outcome_eq, chosen_withBytes stands]
    · unfold contribution
      rw [Disk.readText_withBytes new stands other]

end EnvAudit.Usage
