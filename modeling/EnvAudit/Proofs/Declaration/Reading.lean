import EnvAudit.Proofs.Audit.Completion
import EnvAudit.Proofs.Declaration.Line
import EnvAudit.Proofs.Declaration.Provenance

/-! What declaration files give. Every line gives nothing, one declaration or one fault with its number, and a file
that gives no text gives one fault. Reading returns unless an assigned value stands in brackets and nests too deeply:
such a value is tried as JSON, and this alone stops the reading of all files. -/
namespace EnvAudit.Declaration
open Logged

def IsJudgeable (line : List Char) : Prop :=
  ∀ name text, Assigns line name text → Shape.isBracketed (valueOf text) = true → ¬ Json.IsTooDeep (valueOf text)

inductive Reports (file : String) : Nat → List (List Char) → Declarations → Prop
  | done {number : Nat} : Reports file number [] ⟨[], []⟩
  | silent {number : Nat} {line : List Char} {lines : List (List Char)} {rest : Declarations}
    (silent : IsSilent line) (others : Reports file (number + 1) lines rest) : Reports file number (line :: lines) rest
  | declares {number : Nat} {line text : List Char} {lines : List (List Char)} {rest : Declarations}
    {declaration : Declaration} (assigns : Assigns line declaration.name.toList text)
    (value : declaration.value.toList = valueOf text) (numbered : declaration.line = number)
    (placed : declaration.file = file) (others : Reports file (number + 1) lines rest) :
    Reports file number (line :: lines) { rest with declared := declaration :: rest.declared }
  | malformed {number : Nat} {line : List Char} {lines : List (List Char)} {rest : Declarations}
    (malformed : IsMalformed line) {message : String} (told : readLine line = .fault message)
    (others : Reports file (number + 1) lines rest) :
    Reports file number (line :: lines) { rest with faults := ⟨number, message, some file⟩ :: rest.faults }

section Lines
variable {file : String} {number : Nat} {line : List Char} {lines : List (List Char)} {rest result : Declarations}

theorem ofAssignment_returns {raw name value : List Char} :
    Returns (ofAssignment file number raw name value) ↔
      (Shape.isBracketed value = true → ¬ Json.IsTooDeep value) :=
  (Outcome.returns_bind_iff fun _ _ => Outcome.returns_pure _).trans Shape.ofText_returns

theorem addLine_returns : Returns (addLine file number line rest) ↔ IsJudgeable line := by
  unfold addLine IsJudgeable
  rcases readLine_cases line with ⟨silent, read⟩ | ⟨name, text, assigns, read⟩ | ⟨malformed, message, read⟩
  · rw [read]
    exact iff_of_true (Outcome.returns_ok _) fun name text assigns => absurd silent assigns.speaks
  · rw [read]
    refine (Outcome.returns_bind_iff fun _ _ => Outcome.returns_pure _).trans (ofAssignment_returns.trans ?_)
    constructor
    · intro judged other text' assigned
      have same := read.symm.trans (readLine_of_assigns assigned)
      injection same with _ value
      rw [← value]
      exact judged
    · exact fun judged => judged name text assigns
  · rw [read]
    exact iff_of_true (Outcome.returns_ok _) fun name text assigns => absurd assigns (malformed.nameless name text)

theorem ofLines_returns : Returns (ofLines file number lines) ↔ ∀ line ∈ lines, IsJudgeable line := by
  induction lines generalizing number with
  | nil => simp [ofLines]
  | cons line lines ih =>
    rw [ofLines, Outcome.returns_bind, List.forall_mem_cons, ← ih]
    constructor
    · rintro ⟨rest, read, added⟩
      exact ⟨addLine_returns.mp added, rest, read⟩
    · rintro ⟨judgeable, rest, read⟩
      exact ⟨rest, read, addLine_returns.mpr judgeable⟩

theorem Reports.of_addLine (others : Reports file (number + 1) lines rest)
    (added : addLine file number line rest = .ok result) : Reports file number (line :: lines) result := by
  unfold addLine at added
  rcases readLine_cases line with ⟨silent, read⟩ | ⟨name, text, assigns, read⟩ | ⟨malformed, message, read⟩
  · rw [read] at added
    cases added
    exact .silent silent others
  · rw [read] at added
    obtain ⟨declaration, made, same⟩ := Outcome.bind_eq_ok.mp added
    cases same
    unfold ofAssignment at made
    obtain ⟨shape, _, same⟩ := Outcome.bind_eq_ok.mp made
    cases same
    exact .declares (by simpa using assigns) (by simp) rfl rfl others
  · rw [read] at added
    cases added
    exact .malformed malformed read others

theorem reports_of_ofLines (ok : ofLines file number lines = .ok result) : Reports file number lines result := by
  induction lines generalizing number result with
  | nil =>
    cases ok
    exact .done
  | cons line lines ih =>
    obtain ⟨rest, read, added⟩ := Outcome.bind_eq_ok.mp ok
    exact (ih read).of_addLine added

theorem Reports.le_line_of_mem (reports : Reports file number lines result) {fault : DeclarationFault}
    (member : fault ∈ result.faults) : number ≤ fault.line := by
  induction reports with
  | done => cases member
  | silent _ _ ih => exact Nat.le_of_succ_le (ih member)
  | declares _ _ _ _ _ ih => exact Nat.le_of_succ_le (ih member)
  | malformed _ _ _ ih =>
    rcases List.mem_cons.mp member with rfl | later
    · exact Nat.le_refl _
    · exact Nat.le_of_succ_le (ih later)

theorem Reports.faults_of_malformed (reports : Reports file number lines result) {index : Nat}
    (placed : lines[index]? = some line) (malformed : IsMalformed line) :
    ∃ message, readLine line = .fault message ∧
      result.faults.filter (·.line == number + index) = [⟨number + index, message, some file⟩] := by
  have shift (number index : Nat) : number + 1 + index = number + (index + 1) := by omega
  induction reports generalizing index with
  | done => cases placed
  | @silent number own lines rest silent others ih =>
    cases index with
    | zero =>
      cases placed
      exact absurd silent malformed.speaks
    | succ index =>
      rw [← shift]
      exact ih placed
  | @declares number own text lines rest declaration assigns _ _ _ others ih =>
    cases index with
    | zero =>
      cases placed
      exact absurd assigns (malformed.nameless _ _)
    | succ index =>
      rw [← shift]
      exact ih placed
  | @malformed number own lines rest _ message told others ih =>
    cases index with
    | zero =>
      cases placed
      have later : rest.faults.filter (·.line == number + 0) = [] := by
        refine List.filter_eq_nil_iff.mpr fun fault member => ?_
        have after := others.le_line_of_mem member
        rw [beq_iff_eq]
        omega
      refine ⟨message, told, ?_⟩
      rw [List.filter_cons_of_pos (by simp), later]
      rfl
    | succ index =>
      obtain ⟨message, reads, found⟩ := ih placed
      refine ⟨message, reads, ?_⟩
      rw [List.filter_cons_of_neg (by simp), ← shift]
      exact found

theorem Reports.mem_names_iff (reports : Reports file number lines result) {name : String} :
    name ∈ names result.declared ↔ ∃ line ∈ lines, ∃ text, Assigns line name.toList text := by
  induction reports with
  | done => simp [names]
  | silent silent _ ih =>
    rw [List.exists_mem_cons_iff, ih]
    constructor
    · exact .inr
    · rintro (⟨text, assigns⟩ | later)
      · exact absurd silent assigns.speaks
      · exact later
  | @declares number own text lines rest declaration assigns value _ _ _ ih =>
    rw [List.exists_mem_cons_iff, ← ih, names, List.map_cons, List.mem_cons]
    constructor
    · rintro (rfl | later)
      · exact .inl ⟨text, assigns⟩
      · exact .inr later
    · rintro (⟨text', assigned⟩ | later)
      · exact .inl (String.toList_injective (assigned.name_eq assigns))
      · exact .inr later
  | malformed malformed _ _ ih =>
    rw [List.exists_mem_cons_iff, ← ih]
    constructor
    · exact .inr
    · rintro (⟨text, assigns⟩ | later)
      · exact absurd assigns (malformed.nameless _ text)
      · exact later

theorem Reports.isName_of_mem (reports : Reports file number lines result) {name : String}
    (member : name ∈ names result.declared) : isName name.toList = true := by
  obtain ⟨line, _, text, assigns⟩ := reports.mem_names_iff.mp member
  exact assigns.valid

theorem valueOf_of_solid {text : List Char} (solid : ∀ c ∈ text, Text.isBlank c = false)
    (unquoted : ∀ c ∈ text.head?, c ≠ '\'' ∧ c ≠ '"') : valueOf text = text := by
  have bare : enclosingQuote? text = none := by
    cases text with
    | nil => rfl
    | cons c rest =>
      obtain ⟨single, double⟩ := unquoted c rfl
      rw [enclosingQuote?, List.head?_cons, List.getLast?_eq_some_getLast (List.cons_ne_nil c rest)]
      simp [single, double]
  have uncommented : Text.find? " #".toList text = none :=
    Text.find?_eq_none_of_not_mem fun member => by cases solid ' ' member
  unfold valueOf withoutComment
  rw [Text.trim_of_solid solid]
  simp only [bare, uncommented]

/-- A value of brackets that nest too deeply stops the reading of its text, also where they are balanced. -/
theorem not_returns_of_brackets {name : List Char} (valid : isName name = true) {count : Nat}
    (deep : Json.nestingLimit < count) (more : Nat) (file : String) :
    ¬ Returns (parse (name ++ '=' :: (List.replicate count '[' ++ List.replicate (more + 1) ']')) file) := by
  obtain ⟨fewer, rfl⟩ := Nat.exists_eq_add_of_lt deep
  generalize written : List.replicate (Json.nestingLimit + fewer + 1) '[' ++ List.replicate (more + 1) ']' = value
  have bracket (c : Char) (member : c ∈ value) : c = '[' ∨ c = ']' := by
    rw [← written] at member
    rcases List.mem_append.mp member with opening | closing
    · exact .inl (List.eq_of_mem_replicate opening)
    · exact .inr (List.eq_of_mem_replicate closing)
  have solid (c : Char) (member : c ∈ value) : Text.isBlank c = false := by
    rcases bracket c member with rfl | rfl <;> decide
  have read : valueOf value = value := by
    refine valueOf_of_solid solid fun c head => ?_
    rcases bracket c (List.mem_of_mem_head? head) with rfl | rfl <;> decide
  have bracketed : Shape.isBracketed value = true := by
    have closing : List.replicate (more + 1) ']' = List.replicate more ']' ++ [']'] := List.replicate_succ'
    rw [← written, Shape.isBracketed, closing, ← List.append_assoc, List.getLast?_concat, List.replicate_succ]
    simp
  have single : '\n' ∉ value := by
    intro member
    cases solid '\n' member
  change ¬ Returns (parse (({} : Layout).line name value) file)
  rw [parse, Text.lines, Text.pieces_of_not_mem (Layout.not_mem_line valid single), ofLines_returns]
  intro judgeable
  have judged := judgeable _ List.mem_cons_self name _ (Layout.assigns_line valid (Layout.not_hides_plain name) value)
  rw [Layout.valueOf_trimEnd, read] at judged
  exact judged bracketed (written ▸ Json.isTooDeep_brackets deep _)

end Lines

variable {disk : Disk} {root : Path} {path : String}

def contents (disk : Disk) (root : Path) (path : String) : Except Failure Declarations :=
  if disk.isFile (root.child path) then
    match disk.readText (root.child path) with
    | .error fault => .ok (unreadable path ("Failed to read file: " ++ fault.message))
    | .ok text => parse text.toList path
  else .ok (unreadable path ("File not found: " ++ path))

theorem readFile_yields (disk : Disk) (root : Path) (path : String) :
    Yields (readFile disk root path) (contents disk root path) := by
  unfold readFile contents
  dsimp only
  cases disk.isFile (root.child path) with
  | false => exact yields_report.bind fun _ => yields_pure _
  | true =>
    cases disk.readText (root.child path) with
    | error fault => exact yields_pure _
    | ok text => exact yields_lift _

def merged (parts : List Declarations) : Declarations :=
  ⟨keepLast (parts.flatMap (·.declared)), parts.flatMap (·.faults)⟩

theorem readFiles_yields (disk : Disk) (root : Path) (paths : List String) :
    Yields (readFiles disk root paths) (do return merged (← paths.mapM (contents disk root))) :=
  (yields_mapM (readFile_yields disk root) paths).bind fun parts => yields_pure (merged parts)

/-- Whether all lines of a file can be judged if it can be read. -/
def CanRead (disk : Disk) (root : Path) (path : String) : Prop :=
  ∀ text, disk.readText (root.child path) = .ok text → ∀ line ∈ Text.lines text.toList, IsJudgeable line

inductive IsPart (disk : Disk) (root : Path) (path : String) : Declarations → Prop
  | absent (absent : disk.isFile (root.child path) = false) :
    IsPart disk root path ⟨[], [⟨0, "File not found: " ++ path, some path⟩]⟩
  | unread (present : disk.isFile (root.child path) = true) {fault : TextFault}
    (refused : disk.readText (root.child path) = .error fault) :
    IsPart disk root path ⟨[], [⟨0, "Failed to read file: " ++ fault.message, some path⟩]⟩
  | read {text : String} (read : disk.readText (root.child path) = .ok text) {part : Declarations}
    (reports : Reports path 1 (Text.lines text.toList) part) : IsPart disk root path part

theorem contents_returns : Returns (contents disk root path) ↔ CanRead disk root path := by
  unfold contents CanRead
  cases read : disk.readText (root.child path) with
  | error fault => split <;> exact iff_of_true (Outcome.returns_ok _) (by rintro _ ⟨⟩)
  | ok text =>
    rw [if_pos (Disk.isFile_of_readText read)]
    refine ofLines_returns.trans ?_
    constructor
    · rintro judgeable _ ⟨⟩
      exact judgeable
    · exact fun judgeable => judgeable text rfl

theorem contents_isPart {part : Declarations} (ok : contents disk root path = .ok part) :
    IsPart disk root path part := by
  unfold contents at ok
  split at ok
  · next present =>
    cases read : disk.readText (root.child path) with
    | error fault =>
      rw [read] at ok
      cases ok
      exact .unread present read
    | ok text =>
      rw [read] at ok
      exact .read read (reports_of_ofLines ok)
  · next absent =>
    cases ok
    exact .absent (by simpa using absent)

theorem isName_of_readFiles {paths : List String} {found : Declarations}
    (gives : Gives (readFiles disk root paths) found) {name : String} (member : name ∈ names found.declared) :
    isName name.toList = true := by
  obtain ⟨declaration, declared, rfl⟩ := List.mem_map.mp member
  obtain ⟨_, _, _, _, _, _, own⟩ := standsIn_of_readFiles gives declared
  exact isName_of_readLine own.reads

/-- Whether a text is read line by line: reading returns exactly when every value in brackets can be tried as JSON, and
what the text gives is what its lines give in their order, where a malformed line gives the one fault that has its
number. -/
structure IsReadByLines (text : List Char) (file : String) : Prop where
  returns : Returns (parse text file) ↔ ∀ line ∈ Text.lines text, IsJudgeable line
  reports : ∀ result, parse text file = .ok result → Reports file 1 (Text.lines text) result
  malformed : ∀ result, parse text file = .ok result → ∀ index line, (Text.lines text)[index]? = some line →
    IsMalformed line → ∃ message, readLine line = .fault message ∧
      result.faults.filter (·.line == index + 1) = [⟨index + 1, message, some file⟩]

/-- Whether files are read one by one: reading returns exactly when it does for every file that can be read, and one that
cannot be read gives one fault and no variable. -/
structure IsReadByFiles (disk : Disk) (root : Path) (paths : List String) : Prop where
  returns : Returns (readFiles disk root paths).outcome.1 ↔ ∀ path ∈ paths, CanRead disk root path
  parts : ∀ result, (readFiles disk root paths).outcome.1 = .ok result →
    ∃ parts, List.Forall₂ (IsPart disk root) paths parts ∧ result = merged parts

theorem isReadByLines (text : List Char) (file : String) : IsReadByLines text file where
  returns := ofLines_returns
  reports := fun _ => reports_of_ofLines
  malformed := by
    intro result ok index line placed malformed
    rw [Nat.add_comm index 1]
    exact (reports_of_ofLines ok).faults_of_malformed placed malformed

theorem isReadByFiles (disk : Disk) (root : Path) (paths : List String) : IsReadByFiles disk root paths where
  returns := by
    rw [(readFiles_yields disk root paths).outcome_eq]
    refine Outcome.returns_map.trans (Outcome.mapM_returns.trans ?_)
    simp only [contents_returns]
  parts := by
    intro result ok
    rw [(readFiles_yields disk root paths).outcome_eq, Outcome.bind_eq_ok] at ok
    obtain ⟨parts, given, same⟩ := ok
    cases same
    exact ⟨parts, (Outcome.mapM_eq_ok.mp given).imp fun _ _ ok => contents_isPart ok, rfl⟩

/-- Texts are read line by line and files one by one. -/
theorem reading_exact (text : List Char) (file : String) (disk : Disk) (root : Path) (paths : List String) :
    IsReadByLines text file ∧ IsReadByFiles disk root paths :=
  ⟨isReadByLines text file, isReadByFiles disk root paths⟩

end EnvAudit.Declaration
