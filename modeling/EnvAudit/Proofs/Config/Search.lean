import EnvAudit.Config.Search
import EnvAudit.Proofs.Config.Loading

/-! When a configuration is read from the files of a project. Files that are not there or cannot be read leave the
defaults. Only the files that the search comes to can stop it: by what cannot be loaded, or by a text that cannot be
read to its end. -/
namespace EnvAudit.Config
open Logged

theorem read_yields (value : Json) (directory : Path) :
    Yields (read value directory) (do return (← load value).value.placedAt directory) := by
  refine (yields_lift _).bind fun loaded => ?_
  dsimp only
  split
  · exact yields_report.bind fun _ => (yields_forM (fun _ => yields_report) _).bind fun _ => yields_pure _
  · exact yields_pure _

def foundIn (value : Json) (directory : Path) (file : Option Path) : Except Failure Found := do
  return ⟨(← load value).value.placedAt directory, file⟩

theorem foundIn_yields (value : Json) (directory : Path) (file : Option Path) :
    Yields (do return ⟨← read value directory, file⟩) (foundIn value directory file) := by
  have placed := (read_yields value directory).bind fun config => yields_pure (Found.mk config file)
  intro records
  rw [placed, foundIn]
  cases load value <;> rfl

theorem foundIn_returns {value : Json} {directory : Path} {file : Option Path} :
    Returns (foundIn value directory file) ↔ IsLoadable value :=
  (Outcome.returns_bind_iff fun _ _ => Outcome.returns_pure _).trans (load_returns value)

variable {disk : Disk} {file : Path}

def jsonIn? (disk : Disk) (file : Path) : Except Failure (Option Json) :=
  match disk.readText file with
  | .error _ => .ok none
  | .ok text =>
    match Json.read text.toList with
    | .ok value => .ok (some value)
    | .error .tooDeep => .error .nestingTooDeep
    | .error _ => .ok none

theorem readJson?_yields (disk : Disk) (file : Path) : Yields (readJson? disk file) (jsonIn? disk file) := by
  unfold readJson? jsonIn?
  dsimp only
  cases disk.readText file with
  | error fault => exact yields_report.bind fun _ => yields_pure _
  | ok text =>
    dsimp only
    cases Json.read text.toList with
    | ok value => exact yields_pure _
    | error refusal =>
      cases refusal with
      | tooDeep => exact yields_throw _
      | _ => exact yields_report.bind fun _ => yields_pure _

theorem jsonIn?_returns : Returns (jsonIn? disk file) ↔
    ∀ text, disk.readText file = .ok text → ¬ Json.IsTooDeep text.toList := by
  rw [jsonIn?]
  cases disk.readText file with
  | error fault => simp
  | ok text =>
    simp only [Except.ok.injEq, forall_eq', Json.IsTooDeep]
    cases found : Json.read text.toList with
    | ok value => simp
    | error refusal => cases refusal <;> simp

theorem jsonIn?_eq_some {value : Json} : jsonIn? disk file = .ok (some value) ↔
    ∃ text, disk.readText file = .ok text ∧ Json.read text.toList = .ok value := by
  rw [jsonIn?]
  cases disk.readText file with
  | error fault => simp
  | ok text =>
    simp only [Except.ok.injEq, exists_eq_left']
    cases found : Json.read text.toList with
    | ok value => simp
    | error refusal => cases refusal <;> simp

def objectOf : Option Json → Json
  | some (.object fields) => .object fields
  | _ => .object []

theorem isLoadable_empty : IsLoadable (.object []) := by
  rintro _ ⟨⟩ field member
  cases member

theorem isLoadable_objectOf {value : Option Json} :
    IsLoadable (objectOf value) ↔ ∀ object, value = some object → IsLoadable object := by
  cases value with
  | none => simp [objectOf, isLoadable_empty]
  | some value =>
    simp only [Option.some.injEq, forall_eq']
    cases value with
    | object fields => rfl
    | _ => exact iff_of_true isLoadable_empty (by rintro _ ⟨⟩)

structure IsConfigFile (disk : Disk) (file : Path) : Prop where
  shallow : ∀ text, disk.readText file = .ok text → ¬ Json.IsTooDeep text.toList
  loadable : ∀ text value, disk.readText file = .ok text → Json.read text.toList = .ok value → IsLoadable value

def fileIn (disk : Disk) (file directory : Path) : Except Failure Found := do
  foundIn (objectOf (← jsonIn? disk file)) directory (some file)

theorem readFile_yields (disk : Disk) (file directory : Path) :
    Yields (readFile disk file directory) (fileIn disk file directory) := by
  have object : Yields (readObject disk file) (do return objectOf (← jsonIn? disk file)) := by
    refine (readJson?_yields disk file).bind fun value => ?_
    cases value with
    | none => exact yields_report.bind fun _ => yields_pure _
    | some value =>
      cases value with
      | object fields => exact yields_pure _
      | _ => exact yields_report.bind fun _ => yields_pure _
  intro records
  rw [readFile, object.bind fun value => foundIn_yields value directory (some file), fileIn]
  cases jsonIn? disk file <;> rfl

theorem fileIn_returns {directory : Path} : Returns (fileIn disk file directory) ↔ IsConfigFile disk file := by
  rw [fileIn, Outcome.returns_bind]
  simp only [foundIn_returns, isLoadable_objectOf]
  constructor
  · rintro ⟨value, read, loadable⟩
    refine ⟨jsonIn?_returns.mp ⟨value, read⟩, fun text object ok written => loadable object ?_⟩
    exact Except.ok.inj (read.symm.trans (jsonIn?_eq_some.mpr ⟨text, ok, written⟩))
  · rintro ⟨shallow, loadable⟩
    obtain ⟨value, read⟩ := jsonIn?_returns.mpr shallow
    refine ⟨value, read, ?_⟩
    rintro object rfl
    obtain ⟨text, ok, written⟩ := jsonIn?_eq_some.mp read
    exact loadable text object ok written

def HasSection (disk : Disk) (file : Path) (fields : Json) : Prop :=
  ∃ text table, disk.readText file = .ok text ∧ Toml.read text.toList = .ok table ∧
    toolSection? table = .ok (some fields)

/-- Whether the section in the file that describes a project can be looked for, whatever stands in the file. -/
structure IsSearchable (disk : Disk) (file : Path) : Prop where
  shallow : ∀ text, disk.readText file = .ok text → Toml.read text.toList ≠ .error .tooDeep
  short : ∀ text, disk.readText file = .ok text → ∀ digits, Toml.read text.toList ≠ .error (.longNumber digits)
  tools : ∀ text, disk.readText file = .ok text → ∀ table, Toml.read text.toList = .ok table →
    ∀ tool, table.lookup "tool" = some tool → ∃ tools, tool = .table tools

/-- Whether a configuration in the file that describes a project is loaded, whatever stands in the file. -/
structure IsDescription (disk : Disk) (file : Path) : Prop where
  searchable : IsSearchable disk file
  loadable : ∀ fields, HasSection disk file fields → IsLoadable fields

structure IsPackage (disk : Disk) (file : Path) : Prop where
  shallow : ∀ text, disk.readText file = .ok text → ¬ Json.IsTooDeep text.toList
  loadable : ∀ text value fields, disk.readText file = .ok text → Json.read text.toList = .ok value →
    value.field? sectionName = some fields → IsLoadable fields

def sectionIn? (disk : Disk) (file : Path) : Except Failure (Option Json) :=
  match disk.readText file with
  | .error _ => .ok none
  | .ok text =>
    match Toml.read text.toList with
    | .ok table => toolSection? table
    | .error .tooDeep => .error .nestingTooDeep
    | .error (.longNumber digits) => .error (.numberTooLong digits)
    | .error (.fault _ _) => .ok none

theorem readDescription?_yields (disk : Disk) (file : Path) :
    Yields (readDescription? disk file) (sectionIn? disk file) := by
  unfold readDescription? sectionIn?
  dsimp only
  cases found : disk.readText file with
  | error fault =>
    split
    · exact yields_pure _
    · exact yields_report.bind fun _ => yields_pure _
  | ok text =>
    rw [Disk.isFile_of_readText found, if_neg (by decide)]
    dsimp only
    cases Toml.read text.toList with
    | ok table => exact yields_lift _
    | error refusal =>
      cases refusal with
      | fault flaw offset => exact yields_report.bind fun _ => yields_pure _
      | _ => exact yields_throw _

theorem toolSection?_returns {table : Toml.Table} : Returns (toolSection? table) ↔
    ∀ tool, table.lookup "tool" = some tool → ∃ tools, tool = .table tools := by
  rw [toolSection?]
  cases table.lookup "tool" with
  | none => simp
  | some tool =>
    simp only [Option.some.injEq, forall_eq']
    cases tool with
    | table tools =>
      refine iff_of_true ?_ ⟨tools, rfl⟩
      dsimp only
      split <;> exact Outcome.returns_ok _
    | _ => simp

theorem sectionIn?_returns : Returns (sectionIn? disk file) ↔ IsSearchable disk file := by
  have searchable : IsSearchable disk file ↔ ∀ text, disk.readText file = .ok text →
      Toml.read text.toList ≠ .error .tooDeep ∧ (∀ digits, Toml.read text.toList ≠ .error (.longNumber digits)) ∧
        ∀ table, Toml.read text.toList = .ok table → ∀ tool, table.lookup "tool" = some tool →
          ∃ tools, tool = .table tools :=
    ⟨fun h text ok => ⟨h.1 text ok, h.2 text ok, h.3 text ok⟩,
      fun h => ⟨fun text ok => (h text ok).1, fun text ok => (h text ok).2.1, fun text ok => (h text ok).2.2⟩⟩
  rw [searchable, sectionIn?]
  cases disk.readText file with
  | error fault => simp
  | ok text =>
    simp only [Except.ok.injEq, forall_eq']
    cases found : Toml.read text.toList with
    | ok table => simp [toolSection?_returns]
    | error refusal => cases refusal <;> simp

theorem sectionIn?_eq_some {fields : Json} :
    sectionIn? disk file = .ok (some fields) ↔ HasSection disk file fields := by
  rw [sectionIn?, HasSection]
  cases disk.readText file with
  | error fault => simp
  | ok text =>
    simp only [Except.ok.injEq, exists_and_left, exists_eq_left']
    cases found : Toml.read text.toList with
    | ok table => simp
    | error refusal => cases refusal <;> simp

def packageIn? (disk : Disk) (file : Path) : Except Failure (Option Json) := do
  return ((← jsonIn? disk file).bind (·.field? sectionName)).filter Json.isObject

theorem readPackage?_yields (disk : Disk) (file : Path) : Yields (readPackage? disk file) (packageIn? disk file) := by
  unfold readPackage?
  split
  · next noFile =>
    have nothing : packageIn? disk file = .ok none := by
      rw [packageIn?, jsonIn?]
      cases found : disk.readText file with
      | error fault => rfl
      | ok text =>
        rw [Disk.isFile_of_readText found] at noFile
        cases noFile
    rw [nothing]
    exact yields_pure _
  · exact (readJson?_yields disk file).bind fun _ => yields_pure _

theorem packageIn?_returns : Returns (packageIn? disk file) ↔
    ∀ text, disk.readText file = .ok text → ¬ Json.IsTooDeep text.toList :=
  (Outcome.returns_bind_iff fun _ _ => Outcome.returns_pure _).trans jsonIn?_returns

theorem packageIn?_eq_some {fields : Json} : packageIn? disk file = .ok (some fields) ↔
    ∃ text value, disk.readText file = .ok text ∧ Json.read text.toList = .ok value ∧
      value.field? sectionName = some fields ∧ fields.isObject = true := by
  rw [packageIn?, Outcome.bind_eq_ok]
  constructor
  · rintro ⟨value, read, same⟩
    obtain ⟨bound, object⟩ := Option.filter_eq_some_iff.mp (Except.ok.inj same)
    obtain ⟨value, rfl, field⟩ := Option.bind_eq_some_iff.mp bound
    obtain ⟨text, ok, written⟩ := jsonIn?_eq_some.mp read
    exact ⟨text, value, ok, written, field, object⟩
  · rintro ⟨text, value, ok, written, field, object⟩
    refine ⟨some value, jsonIn?_eq_some.mpr ⟨text, ok, written⟩, congrArg Except.ok ?_⟩
    rw [Option.bind_some, field, Option.filter_some, if_pos object]

def describedIn (disk : Disk) (root : Path) : Except Failure Found := do
  match ← sectionIn? disk (root.child "pyproject.toml") with
  | some fields => foundIn fields root (some (root.child "pyproject.toml"))
  | none =>
    match ← packageIn? disk (root.child "package.json") with
    | some fields => foundIn fields root (some (root.child "package.json"))
    | none => foundIn (.object []) root none

theorem describedIn_returns {root : Path} : Returns (describedIn disk root) ↔
    IsDescription disk (root.child "pyproject.toml") ∧
      ((∀ fields, ¬ HasSection disk (root.child "pyproject.toml") fields) →
        IsPackage disk (root.child "package.json")) := by
  rw [describedIn, Outcome.returns_bind]
  constructor
  · rintro ⟨described, searched, rest⟩
    refine ⟨⟨sectionIn?_returns.mp ⟨described, searched⟩, fun fields has => ?_⟩, fun lacks => ?_⟩
    · cases searched.symm.trans (sectionIn?_eq_some.mpr has)
      exact foundIn_returns.mp rest
    · cases described with
      | some fields => exact absurd (sectionIn?_eq_some.mp searched) (lacks fields)
      | none =>
        obtain ⟨packaged, read, loaded⟩ := Outcome.returns_bind.mp rest
        refine ⟨packageIn?_returns.mp ⟨packaged, read⟩, ?_⟩
        rintro text value _ ok written field object rfl
        cases read.symm.trans (packageIn?_eq_some.mpr ⟨text, value, ok, written, field, rfl⟩)
        exact foundIn_returns.mp loaded object rfl
  · rintro ⟨⟨searchable, loadable⟩, package⟩
    obtain ⟨described, searched⟩ := sectionIn?_returns.mpr searchable
    refine ⟨described, searched, ?_⟩
    cases described with
    | some fields => exact foundIn_returns.mpr (loadable fields (sectionIn?_eq_some.mp searched))
    | none =>
      have lacks (fields : Json) (has : HasSection disk (root.child "pyproject.toml") fields) : False := by
        cases searched.symm.trans (sectionIn?_eq_some.mpr has)
      obtain ⟨shallow, loadable⟩ := package lacks
      obtain ⟨packaged, read⟩ := packageIn?_returns.mpr shallow
      refine Outcome.returns_bind.mpr ⟨packaged, read, ?_⟩
      cases packaged with
      | none => exact foundIn_returns.mpr isLoadable_empty
      | some fields =>
        obtain ⟨text, value, ok, written, field, _⟩ := packageIn?_eq_some.mp read
        exact foundIn_returns.mpr (loadable text value fields ok written field)

theorem searchFrom_yields_described {root : Path} (nothing : findFile? disk root = none) :
    Yields (searchFrom disk root) (describedIn disk root) := by
  unfold searchFrom
  rw [nothing]
  dsimp only
  refine (readDescription?_yields _ _).bind fun described => ?_
  cases described with
  | some fields => exact yields_report.bind fun _ => foundIn_yields _ _ _
  | none =>
    refine (readPackage?_yields _ _).bind fun packaged => ?_
    cases packaged with
    | some fields => exact yields_report.bind fun _ => foundIn_yields _ _ _
    | none => exact yields_report.bind fun _ => foundIn_yields _ _ _

theorem searchFrom_yields_file {root : Path} (found : findFile? disk root = some file) :
    Yields (searchFrom disk root) (fileIn disk file file.parent) := by
  unfold searchFrom
  rw [found]
  dsimp only
  exact yields_report.bind fun _ => readFile_yields _ _ _

theorem readChosen_returns {root : Path} {name : String} :
    Returns (readChosen disk root name).outcome.1 ↔ IsConfigFile disk (root.child name) := by
  unfold readChosen
  dsimp only
  split
  · rw [(readFile_yields _ _ _).outcome_eq, fileIn_returns]
  · next noFile =>
    have unread (text : String) (ok : disk.readText (root.child name) = .ok text) : False :=
      noFile (Disk.isFile_of_readText ok)
    rw [(yields_report.bind fun _ => foundIn_yields (.object []) root none).outcome_eq]
    exact iff_of_true (foundIn_returns.mpr isLoadable_empty)
      ⟨fun text ok => (unread text ok).elim, fun text _ ok => (unread text ok).elim⟩

/-- Whether the files that a search for the configuration of a project comes to are read and loaded. -/
def IsConfigured (disk : Disk) (chosen : Option String) (root : Path) : Prop :=
  match chosen, findFile? disk root with
  | some name, _ => IsConfigFile disk (root.child name)
  | none, some file => IsConfigFile disk file
  | none, none =>
    IsDescription disk (root.child "pyproject.toml") ∧
      ((∀ fields, ¬ HasSection disk (root.child "pyproject.toml") fields) →
        IsPackage disk (root.child "package.json"))

/-- Brackets that open more lists inside of each other than the limit stop the loading of a file, whatever follows. -/
theorem not_isConfigFile_brackets {count : Nat} (deep : Json.nestingLimit < count) (rest : List Char)
    (written : disk.readText file = .ok (String.ofList (List.replicate count '[' ++ rest))) :
    ¬ IsConfigFile disk file := by
  rintro ⟨shallow, _⟩
  apply shallow _ written
  rw [String.toList_ofList]
  exact Json.isTooDeep_brackets deep rest

end EnvAudit.Config
