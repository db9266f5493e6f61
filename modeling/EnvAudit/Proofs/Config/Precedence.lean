import EnvAudit.Proofs.Config.Search

/-! What the configuration of a project is taken from. The candidates stand in one order: the configuration files name
by name, each from the nearest directory upward, then the description of the project, then that of its packages. The
first candidate that offers a value is taken, and no candidate behind it is looked at. -/
namespace EnvAudit.Config
open Logged

inductive Candidate
  | file (name : String) (directory : Path)
  | description (directory : Path)
  | package (directory : Path)
deriving Repr, DecidableEq

def HasPackageSection (disk : Disk) (file : Path) (fields : Json) : Prop :=
  ∃ text value, disk.readText file = .ok text ∧ Json.read text.toList = .ok value ∧
    value.field? sectionName = some fields ∧ fields.isObject = true

namespace Candidate
variable {disk other : Disk}

def directory : Candidate → Path
  | file _ directory | description directory | package directory => directory

def path : Candidate → Path
  | file name directory => directory.child name
  | description directory => directory.child "pyproject.toml"
  | package directory => directory.child "package.json"

/-- Whether a candidate offers a value. A configuration file always does, whatever stands in it. -/
inductive Offers (disk : Disk) : Candidate → Json → Prop
  | file {name : String} {directory : Path} {value : Option Json} (stands : disk.isFile (directory.child name) = true)
      (read : jsonIn? disk (directory.child name) = .ok value) : Offers disk (.file name directory) (objectOf value)
  | description {directory : Path} {fields : Json}
      (has : HasSection disk (directory.child "pyproject.toml") fields) : Offers disk (.description directory) fields
  | package {directory : Path} {fields : Json}
      (has : HasPackageSection disk (directory.child "package.json") fields) : Offers disk (.package directory) fields

/-- Whether a candidate leaves the choice to those behind it. -/
inductive Declines (disk : Disk) : Candidate → Prop
  | file {name : String} {directory : Path} (missing : disk.isFile (directory.child name) = false) :
      Declines disk (.file name directory)
  | description {directory : Path} (searchable : IsSearchable disk (directory.child "pyproject.toml"))
      (lacks : ∀ fields, ¬ HasSection disk (directory.child "pyproject.toml") fields) :
      Declines disk (.description directory)
  | package {directory : Path}
      (shallow : ∀ text, disk.readText (directory.child "package.json") = .ok text → ¬ Json.IsTooDeep text.toList)
      (lacks : ∀ fields, ¬ HasPackageSection disk (directory.child "package.json") fields) :
      Declines disk (.package directory)

def offer? (disk : Disk) : Candidate → Except Failure (Option Json)
  | file name directory =>
    if disk.isFile (directory.child name) then do return some (objectOf (← jsonIn? disk (directory.child name)))
    else .ok none
  | description directory => sectionIn? disk (directory.child "pyproject.toml")
  | package directory => packageIn? disk (directory.child "package.json")

theorem offer?_eq_some {candidate : Candidate} {value : Json} :
    candidate.offer? disk = .ok (some value) ↔ Offers disk candidate value := by
  cases candidate with
  | file name directory =>
    rw [offer?]
    constructor
    · intro offered
      split at offered
      · next stands =>
        obtain ⟨object, read, same⟩ := Outcome.bind_eq_ok.mp offered
        cases same
        exact .file stands read
      · cases offered
    · rintro ⟨stands, read⟩
      rw [if_pos stands, read]
      rfl
  | description directory =>
    refine sectionIn?_eq_some.trans ⟨.description, ?_⟩
    rintro ⟨⟩
    assumption
  | package directory =>
    refine packageIn?_eq_some.trans ⟨.package, ?_⟩
    rintro ⟨⟩
    assumption

theorem offer?_eq_none {candidate : Candidate} : candidate.offer? disk = .ok none ↔ Declines disk candidate := by
  cases candidate with
  | file name directory =>
    rw [offer?]
    constructor
    · intro declined
      split at declined
      · obtain ⟨_, _, same⟩ := Outcome.bind_eq_ok.mp declined
        cases same
      · next missing => exact .file (Bool.eq_false_iff.mpr missing)
    · rintro ⟨missing⟩
      rw [missing, if_neg Bool.false_ne_true]
  | description directory =>
    rw [offer?, Outcome.eq_ok_none_iff, sectionIn?_returns]
    simp only [ne_eq, sectionIn?_eq_some]
    constructor
    · rintro ⟨searchable, lacks⟩
      exact .description searchable lacks
    · rintro ⟨⟩
      exact ⟨‹_›, ‹_›⟩
  | package directory =>
    rw [offer?, Outcome.eq_ok_none_iff, packageIn?_returns]
    simp only [ne_eq, packageIn?_eq_some]
    constructor
    · rintro ⟨shallow, lacks⟩
      exact .package shallow lacks
    · rintro ⟨⟩
      exact ⟨‹_›, ‹_›⟩

/-- Whether a file stands and reads the same on two disks. -/
structure Alike (disk other : Disk) (file : Path) : Prop where
  stands : other.isFile file = disk.isFile file
  text : other.readText file = disk.readText file

theorem offer?_congr {candidate : Candidate} (alike : Alike disk other candidate.path) :
    candidate.offer? other = candidate.offer? disk := by
  obtain ⟨stands, text⟩ := alike
  cases candidate with
  | file name directory =>
    dsimp only [path] at stands text
    rw [offer?, offer?, stands, jsonIn?, jsonIn?, text]
  | description directory =>
    dsimp only [path] at text
    rw [offer?, offer?, sectionIn?, sectionIn?, text]
  | package directory =>
    dsimp only [path] at text
    rw [offer?, offer?, packageIn?, packageIn?, jsonIn?, jsonIn?, text]

def takeFirst (disk : Disk) (root : Path) : List Candidate → Except Failure Found
  | [] => foundIn (.object []) root none
  | candidate :: rest => do
    match ← candidate.offer? disk with
    | some value => foundIn value candidate.directory (some candidate.path)
    | none => takeFirst disk root rest

variable {root : Path} {candidate : Candidate} {before rest : List Candidate} {value : Json}

theorem takeFirst_of_offers (offers : Offers disk candidate value) :
    takeFirst disk root (candidate :: rest) = foundIn value candidate.directory (some candidate.path) := by
  rw [takeFirst, offer?_eq_some.mpr offers]
  rfl

theorem takeFirst_append (declined : ∀ earlier ∈ before, Declines disk earlier) :
    takeFirst disk root (before ++ rest) = takeFirst disk root rest := by
  induction before with
  | nil => rfl
  | cons candidate before ih =>
    obtain ⟨first, others⟩ := List.forall_mem_cons.mp declined
    rw [List.cons_append, takeFirst, offer?_eq_none.mpr first]
    exact ih others

/-- Whether a candidate of a list is the first one that offers a value. -/
structure IsTaken (disk : Disk) (listed before : List Candidate) (candidate : Candidate) (value : Json) : Prop where
  stands : before ++ [candidate] <+: listed
  declined : ∀ earlier ∈ before, Declines disk earlier
  offers : Offers disk candidate value

theorem IsTaken.takeFirst_eq {listed : List Candidate} (taken : IsTaken disk listed before candidate value) :
    takeFirst disk root listed = foundIn value candidate.directory (some candidate.path) := by
  obtain ⟨⟨after, rfl⟩, declined, offers⟩ := taken
  rw [List.append_assoc, takeFirst_append declined, List.singleton_append, takeFirst_of_offers offers]

theorem IsTaken.congr {listed : List Candidate} (taken : IsTaken disk listed before candidate value)
    (alike : ∀ same ∈ before ++ [candidate], Alike disk other same.path) :
    IsTaken other listed before candidate value := by
  obtain ⟨stands, declined, offers⟩ := taken
  refine ⟨stands, fun earlier known => ?_, ?_⟩
  · rw [← offer?_eq_none, offer?_congr (alike earlier (List.mem_append_left _ known)), offer?_eq_none]
    exact declined earlier known
  · rw [← offer?_eq_some, offer?_congr (alike candidate List.mem_concat_self), offer?_eq_some]
    exact offers

theorem takeFirst_eq_ok {listed : List Candidate} {found : Found} :
    takeFirst disk root listed = .ok found ↔
      (∃ before candidate value, IsTaken disk listed before candidate value ∧
        foundIn value candidate.directory (some candidate.path) = .ok found) ∨
      (∀ candidate ∈ listed, Declines disk candidate) ∧ foundIn (.object []) root none = .ok found := by
  constructor
  · intro taken
    induction listed with
    | nil => exact .inr ⟨nofun, taken⟩
    | cons candidate rest ih =>
      obtain ⟨offered, known, taken⟩ := Outcome.bind_eq_ok.mp taken
      cases offered with
      | some value => exact .inl ⟨[], candidate, value, ⟨⟨rest, rfl⟩, nofun, offer?_eq_some.mp known⟩, taken⟩
      | none =>
        have first : Declines disk candidate := offer?_eq_none.mp known
        rcases ih taken with ⟨before, chosen, value, ⟨stands, declined, offers⟩, found⟩ | ⟨declined, found⟩
        · refine .inl ⟨candidate :: before, chosen, value, ⟨?_, ?_, offers⟩, found⟩
          · exact List.prefix_cons_inj candidate |>.mpr stands
          · exact List.forall_mem_cons.mpr ⟨first, declined⟩
        · exact .inr ⟨List.forall_mem_cons.mpr ⟨first, declined⟩, found⟩
  · rintro (⟨before, candidate, value, taken, found⟩ | ⟨declined, found⟩)
    · rw [taken.takeFirst_eq, found]
    · rw [← List.append_nil listed, takeFirst_append declined, takeFirst, found]

end Candidate

open Candidate
variable {disk : Disk} {root : Path}

def fileCandidates (root : Path) : List Candidate :=
  fileNames.flatMap fun name => root.withParents.map (Candidate.file name)

def candidates (root : Path) : List Candidate := fileCandidates root ++ [.description root, .package root]

theorem mem_fileCandidates {candidate : Candidate} : candidate ∈ fileCandidates root ↔
    ∃ name ∈ fileNames, ∃ directory ∈ root.withParents, candidate = .file name directory := by
  simp only [fileCandidates, List.mem_flatMap, List.mem_map, eq_comm]

theorem findFile?_eq (disk : Disk) (root : Path) :
    findFile? disk root = ((fileCandidates root).find? fun candidate => disk.isFile candidate.path).map path := by
  rw [findFile?, fileCandidates, List.find?_flatMap, List.map_findSome?]
  congr 1
  funext name
  simp only [findAbove?, Function.comp_apply, List.find?_map, Option.map_map]
  rfl

theorem parent_child {name : String} (listed : name ∈ fileNames) (directory : Path) :
    (directory.child name).parent = directory := by
  have plain : Path.ofString name = ⟨"", [name]⟩ := by
    revert listed
    revert name
    decide
  rw [Path.child, plain, Path.join, Path.isAbsolute, if_neg (by simp), Path.parent, List.dropLast_concat]

theorem takeFirst_file {name : String} {directory : Path} {rest : List Candidate}
    (stands : disk.isFile (directory.child name) = true) :
    takeFirst disk root (.file name directory :: rest) = fileIn disk (directory.child name) directory := by
  rw [takeFirst, offer?, if_pos stands, fileIn]
  cases jsonIn? disk (directory.child name) <;> rfl

theorem searchFrom_yields_first (disk : Disk) (root : Path) :
    Yields (searchFrom disk root) (takeFirst disk root (candidates root)) := by
  cases chosen : (fileCandidates root).find? fun candidate => disk.isFile candidate.path with
  | none =>
    have nothing : findFile? disk root = none := by rw [findFile?_eq, chosen, Option.map_none]
    have declined : ∀ candidate ∈ fileCandidates root, Declines disk candidate := by
      intro candidate member
      have missing := List.find?_eq_none.mp chosen candidate member
      obtain ⟨name, _, directory, _, rfl⟩ := mem_fileCandidates.mp member
      exact .file (Bool.eq_false_iff.mpr missing)
    rw [candidates, takeFirst_append declined]
    exact searchFrom_yields_described nothing
  | some candidate =>
    have found : findFile? disk root = some candidate.path := by rw [findFile?_eq, chosen, Option.map_some]
    obtain ⟨stands, before, after, split, missing⟩ := List.find?_eq_some_iff_append.mp chosen
    have isFile : ∀ earlier ∈ before ++ candidate :: after, ∃ name ∈ fileNames, ∃ directory,
        earlier = .file name directory := by
      intro earlier member
      obtain ⟨name, listed, directory, _, same⟩ := mem_fileCandidates.mp (split ▸ member)
      exact ⟨name, listed, directory, same⟩
    have declined : ∀ earlier ∈ before, Declines disk earlier := by
      intro earlier known
      have gone : disk.isFile earlier.path = false := by simpa using missing earlier known
      obtain ⟨name, _, directory, rfl⟩ := isFile earlier (List.mem_append_left _ known)
      exact .file gone
    obtain ⟨name, listed, directory, rfl⟩ := isFile candidate (by simp)
    have yields := searchFrom_yields_file found
    rw [path, parent_child listed] at yields
    rwa [candidates, split, List.append_assoc, takeFirst_append declined, List.cons_append, takeFirst_file stands]

/-- The configuration of a project is that of the first candidate that offers a value, or the default one where every
candidate declines, and there is none where a candidate that is looked at does neither. Whatever else is changed on the
disk, the outcome stays the same as long as that candidate and those before it do. -/
theorem search_takes_first (disk : Disk) (start : Path) :
    (∀ found, (search disk none start).outcome.1 = .ok found ↔
      (∃ before candidate value, IsTaken disk (candidates (Path.resolve disk.working start)) before candidate value ∧
        foundIn value candidate.directory (some candidate.path) = .ok found) ∨
      (∀ candidate ∈ candidates (Path.resolve disk.working start), Declines disk candidate) ∧
        foundIn (.object []) (Path.resolve disk.working start) none = .ok found) ∧
    ∀ before candidate value other,
      IsTaken disk (candidates (Path.resolve disk.working start)) before candidate value →
      other.working = disk.working → (∀ same ∈ before ++ [candidate], Alike disk other same.path) →
      (search other none start).outcome.1 = (search disk none start).outcome.1 := by
  simp only [search, (searchFrom_yields_first _ _).outcome_eq]
  refine ⟨fun found => takeFirst_eq_ok, ?_⟩
  intro before candidate value other taken working alike
  rw [working, taken.takeFirst_eq, (taken.congr alike).takeFirst_eq]

end EnvAudit.Config
