import EnvAudit.CommandLine
import EnvAudit.Proofs.Config.Search
import EnvAudit.Proofs.Declaration.Reading
import EnvAudit.Proofs.Usage.Survey

/-! Reports do not steer the program. What the loading of a configuration and the audit of a project give does not
depend on what was reported before, so that they give one value at most. -/
namespace EnvAudit

namespace Logged
variable {α β : Type}

def IsSettled (operation : Logged α) : Prop := ∃ result, Yields operation result

theorem IsSettled.eq {operation : Logged α} (settled : IsSettled operation) {value other : α}
    (gives : Gives operation value) (gives' : Gives operation other) : value = other := by
  obtain ⟨result, yields⟩ := settled
  have same := (yields.eq_ok gives).symm.trans (yields.eq_ok gives')
  injection same

theorem IsSettled.bind {first : Logged α} {next : α → Logged β} (begun : IsSettled first)
    (goes : ∀ value, IsSettled (next value)) : IsSettled (first >>= next) := by
  obtain ⟨result, yields⟩ := begun
  choose results continues using goes
  exact ⟨_, yields.bind continues⟩

theorem settled_pure (value : α) : IsSettled (pure value) := ⟨_, yields_pure value⟩

theorem settled_throw (failure : Failure) : IsSettled (throw failure : Logged α) := ⟨_, yields_throw failure⟩

theorem settled_lift (result : Except Failure α) : IsSettled (liftM result) := ⟨_, yields_lift result⟩

theorem settled_report {level : Log.Level} {logger message : String} : IsSettled (report level logger message) :=
  ⟨_, yields_report⟩

theorem settled_forM_report {level : Log.Level} {logger : String} (messages : List String) :
    IsSettled (messages.forM (report level logger)) := ⟨_, yields_forM (fun _ => yields_report) messages⟩

end Logged

open Logged

theorem Config.search_settled (disk : Disk) (chosen : Option String) (root : Path) :
    IsSettled (search disk chosen root) := by
  unfold search
  dsimp only
  generalize Path.resolve disk.working root = root
  cases chosen with
  | some name =>
    unfold readChosen
    dsimp only
    split
    · exact ⟨_, readFile_yields _ _ _⟩
    · exact settled_report.bind fun _ => ⟨_, foundIn_yields _ _ _⟩
  | none =>
    cases found : findFile? disk root with
    | some file => exact ⟨_, searchFrom_yields_file found⟩
    | none => exact ⟨_, searchFrom_yields_described found⟩

theorem Framework.readPackage_settled (disk : Disk) (place : Path) : IsSettled (readPackage disk place) := by
  unfold readPackage
  dsimp only
  split
  · exact settled_report.bind fun _ => settled_pure _
  · split
    · exact settled_pure _
    · exact settled_throw _
    · exact settled_report.bind fun _ => settled_pure _

theorem Framework.detect_settled (disk : Disk) (root : Path) : IsSettled (detect disk root) := by
  unfold detect
  split
  · exact settled_report.bind fun _ => settled_pure _
  · have packaged : IsSettled (ofPackage? disk root) := by
      unfold ofPackage?
      dsimp only
      split
      · exact settled_pure _
      · exact (readPackage_settled _ _).bind fun _ => settled_pure _
    refine packaged.bind fun told => ?_
    cases told with
    | some framework => exact settled_report.bind fun _ => settled_pure _
    | none => exact settled_report.bind fun _ => settled_pure _

theorem Audit.run_settled (declared : List Declaration) (used : List Usage) (config : Config)
    (template : Option (List Declaration)) (framework : Option Framework) :
    IsSettled (run declared used config template framework) := by
  refine (settled_forM_report _).bind fun _ => (settled_forM_report _).bind fun _ => ?_
  exact (settled_lift _).bind fun _ => settled_report.bind fun _ => settled_pure _

namespace Project

theorem readTemplate?_settled (disk : Disk) (config : Config) : IsSettled (readTemplate? disk config) := by
  unfold readTemplate?
  dsimp only
  split
  · exact settled_pure _
  · split
    · exact IsSettled.bind ⟨_, Declaration.readFile_yields _ _ _⟩ fun _ => settled_pure _
    · exact settled_report.bind fun _ => settled_pure _

theorem audit_settled (disk : Disk) (config : Config) : IsSettled (audit disk config) := by
  have framework : IsSettled (frameworkOf disk config) := by
    unfold frameworkOf
    split
    · exact settled_pure _
    · exact Framework.detect_settled _ _
  refine framework.bind fun framework => settled_report.bind fun _ => ?_
  refine IsSettled.bind ⟨_, Declaration.readFiles_yields _ _ _⟩ fun found => ?_
  refine IsSettled.bind ⟨_, yields_forM (fun _ => yields_report) _⟩ fun _ => ?_
  refine (readTemplate?_settled _ _).bind fun template => ?_
  refine IsSettled.bind ⟨_, Usage.survey_yields _ _ _ _ _⟩ fun survey => ?_
  exact (Audit.run_settled _ _ _ _ _).bind fun issues => settled_report.bind fun _ => settled_pure _

end Project

theorem CommandLine.loadTarget_settled (disk : Disk) (target : Target) : IsSettled (loadTarget disk target) := by
  refine (Config.search_settled _ _ _).bind fun found => ?_
  dsimp only
  split
  · refine settled_report.bind fun _ => (settled_lift _).bind fun complaints => ?_
    exact (settled_forM_report _).bind fun _ => settled_pure _
  · refine (settled_lift _).bind fun complaints => ?_
    exact (settled_forM_report _).bind fun _ => settled_pure _

end EnvAudit
