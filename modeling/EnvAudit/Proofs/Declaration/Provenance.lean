import EnvAudit.Declaration.Files
import EnvAudit.Proofs.Outcome
import Mathlib.Data.List.DropRight

/-! Where declarations come from. Every declaration that files give stands on a line of one of them: it carries that
line whole, with its number, and what the line says is its name and its value. On a line without backslashes the value
stands as it is. -/
namespace EnvAudit.Text

theorem trim_isInfix (text : List Char) : trim text <:+: text :=
  (List.rdropWhile_prefix isBlank (trimStart text)).isInfix.trans (List.dropWhile_suffix isBlank).isInfix

theorem suffix_of_dropStart? {beginning text rest : List Char} (found : dropStart? beginning text = some rest) :
    rest <:+ text := by
  induction beginning generalizing text with
  | nil =>
    cases found
    exact List.suffix_refl _
  | cons b beginning ih =>
    cases text with
    | nil => cases found
    | cons c text =>
      rw [dropStart?] at found
      split at found
      · exact (ih found).trans (List.suffix_cons c text)
      · cases found

theorem suffix_of_cut? {sep : Char} {text before after : List Char} (found : cut? sep text = some (before, after)) :
    after <:+ text := by
  induction text generalizing before with
  | nil => cases found
  | cons c rest ih =>
    rw [cut?] at found
    split at found
    · cases found
      exact List.suffix_cons c _
    · obtain ⟨⟨first, last⟩, cut, same⟩ := Option.map_eq_some_iff.mp found
      cases same
      exact (ih cut).trans (List.suffix_cons c rest)

end EnvAudit.Text

namespace EnvAudit.Declaration

theorem unescape_of_plain {text : List Char} (plain : '\\' ∉ text) : unescape text = text := by
  induction text with
  | nil => rfl
  | cons c rest ih =>
    obtain ⟨other, plain⟩ := List.ne_and_not_mem_of_not_mem_cons plain
    rw [unescape, ih plain]
    -- The clauses for a backslash do not apply.
    all_goals simp [Ne.symm other]

theorem valueOf_isInfix {text : List Char} (plain : '\\' ∉ text) : valueOf text <:+: text := by
  have inner (text : List Char) : (text.drop 1).dropLast <:+: text :=
    (List.dropLast_prefix _).isInfix.trans (List.drop_suffix 1 text).isInfix
  have trimmed := Text.trim_isInfix text
  unfold valueOf
  dsimp only
  split
  · rw [unescape_of_plain fun member => plain (((inner _).trans trimmed).subset member)]
    exact (inner _).trans trimmed
  · exact (inner _).trans trimmed
  · unfold withoutComment
    split
    · exact ((Text.trim_isInfix _).trans (List.take_prefix _ _).isInfix).trans trimmed
    · exact trimmed

theorem infix_of_readLine {line name value : List Char} (reads : readLine line = .assignment name value)
    (plain : '\\' ∉ line) : value <:+: line := by
  unfold readLine at reads
  dsimp only at reads
  split at reads
  · cases reads
  · split at reads
    · cases reads
    · next cut =>
      have body : (Text.dropStart? "export ".toList (Text.trim line)).getD (Text.trim line) <:+: line := by
        refine List.IsInfix.trans ?_ (Text.trim_isInfix line)
        cases found : Text.dropStart? "export ".toList (Text.trim line) with
        | none => exact List.infix_refl _
        | some rest => exact (Text.suffix_of_dropStart? found).isInfix
      have after := (Text.suffix_of_cut? cut).isInfix.trans body
      split at reads
      · cases reads
        exact (valueOf_isInfix fun member => plain (after.subset member)).trans after
      · cases reads

structure IsReadFrom (line : List Char) (declaration : Declaration) : Prop where
  raw : declaration.raw = some (String.ofList line)
  reads : readLine line = .assignment declaration.name.toList declaration.value.toList

theorem IsReadFrom.ne_nil {line : List Char} {declaration : Declaration} (read : IsReadFrom line declaration) :
    line ≠ [] := by
  rintro rfl
  have blank : readLine [] = .nothing := rfl
  rw [read.reads] at blank
  cases blank

theorem ofAssignment_isReadFrom {file : String} {number : Nat} {line name value : List Char}
    {declaration : Declaration} (reads : readLine line = .assignment name value)
    (ok : ofAssignment file number line name value = .ok declaration) :
    declaration.line = number ∧ declaration.file = file ∧ IsReadFrom line declaration := by
  unfold ofAssignment at ok
  obtain ⟨shape, _, same⟩ := Outcome.bind_eq_ok.mp ok
  cases same
  exact ⟨rfl, rfl, rfl, by simpa using reads⟩

/-- Whether a declaration is read from one of some lines, which are numbered from the given number on. -/
def StandsAmong (number : Nat) (lines : List (List Char)) (declaration : Declaration) : Prop :=
  ∃ index line, declaration.line = number + index ∧ lines[index]? = some line ∧ IsReadFrom line declaration

theorem StandsAmong.later {number : Nat} {lines : List (List Char)} {declaration : Declaration} (line : List Char)
    (stands : StandsAmong (number + 1) lines declaration) : StandsAmong number (line :: lines) declaration := by
  obtain ⟨index, own, numbered, placed, read⟩ := stands
  exact ⟨index + 1, own, by omega, placed, read⟩

theorem standsAmong_of_ofLines {file : String} {number : Nat} {lines : List (List Char)} {result : Declarations}
    (ok : ofLines file number lines = .ok result) {declaration : Declaration}
    (member : declaration ∈ result.declared) :
    declaration.file = file ∧ StandsAmong number lines declaration := by
  induction lines generalizing number result with
  | nil =>
    cases ok
    cases member
  | cons line lines ih =>
    obtain ⟨rest, read, added⟩ := Outcome.bind_eq_ok.mp ok
    have later (known : declaration ∈ rest.declared) :
        declaration.file = file ∧ StandsAmong number (line :: lines) declaration :=
      ⟨(ih read known).1, (ih read known).2.later line⟩
    unfold addLine at added
    split at added
    · cases added
      exact later member
    · cases added
      exact later member
    · next reads =>
      obtain ⟨own, made, same⟩ := Outcome.bind_eq_ok.mp added
      cases same
      rcases List.mem_cons.mp member with rfl | known
      · obtain ⟨numbered, inFile, read⟩ := ofAssignment_isReadFrom reads made
        exact ⟨inFile, 0, line, numbered, rfl, read⟩
      · exact later known

theorem eq_of_line {file : String} {number : Nat} {lines : List (List Char)} {result : Declarations}
    (ok : ofLines file number lines = .ok result) {first second : Declaration} (member : first ∈ result.declared)
    (member' : second ∈ result.declared) (same : first.line = second.line) :
    first.name = second.name ∧ first.value = second.value := by
  obtain ⟨_, index, line, numbered, placed, read⟩ := standsAmong_of_ofLines ok member
  obtain ⟨_, index', line', numbered', placed', read'⟩ := standsAmong_of_ofLines ok member'
  have indices : index = index' := by omega
  rw [indices, placed'] at placed
  cases placed
  have reads := read.reads
  rw [read'.reads] at reads
  injection reads with name value
  exact ⟨String.toList_inj.mp name.symm, String.toList_inj.mp value.symm⟩

theorem ofAssignment_isSecret {file : String} {number : Nat} {line name value : List Char} {declaration : Declaration}
    (ok : ofAssignment file number line name value = .ok declaration) :
    declaration.isSecret = Secret.isLikely declaration.name declaration.value [] := by
  unfold ofAssignment at ok
  generalize judged : Secret.isLikely (String.ofList name) (String.ofList value) [] = flag at ok
  obtain ⟨shape, _, same⟩ := Outcome.bind_eq_ok.mp ok
  cases same
  exact judged.symm

/-- A declaration is taken for a secret by its name and its value alone. -/
theorem isSecret_of_ofLines {file : String} {number : Nat} {lines : List (List Char)} {result : Declarations}
    (ok : ofLines file number lines = .ok result) {declaration : Declaration}
    (member : declaration ∈ result.declared) :
    declaration.isSecret = Secret.isLikely declaration.name declaration.value [] := by
  induction lines generalizing number result with
  | nil =>
    cases ok
    cases member
  | cons line lines ih =>
    obtain ⟨rest, read, added⟩ := Outcome.bind_eq_ok.mp ok
    unfold addLine at added
    split at added
    · cases added
      exact ih read member
    · cases added
      exact ih read member
    · obtain ⟨own, made, same⟩ := Outcome.bind_eq_ok.mp added
      cases same
      rcases List.mem_cons.mp member with rfl | known
      · exact ofAssignment_isSecret made
      · exact ih read known

def StandsIn (disk : Disk) (root : Path) (declaration : Declaration) : Prop :=
  ∃ text, disk.readText (root.child declaration.file) = .ok text ∧
    StandsAmong 1 (Text.lines text.toList) declaration

variable {disk : Disk} {root : Path}

theorem standsIn_of_readFile {path : String} {result : Declarations}
    (gives : Logged.Gives (readFile disk root path) result) {declaration : Declaration}
    (member : declaration ∈ result.declared) : StandsIn disk root declaration := by
  unfold readFile at gives
  dsimp only at gives
  have nothing (reason : String) (empty : result = unreadable path reason) : StandsIn disk root declaration := by
    rw [empty] at member
    cases member
  split at gives
  · obtain ⟨_, _, gives⟩ := gives.of_bind
    cases (Logged.yields_pure _).eq_ok gives
    exact nothing _ rfl
  · split at gives
    · cases (Logged.yields_pure _).eq_ok gives
      exact nothing _ rfl
    · next text read =>
      obtain ⟨inFile, stands⟩ := standsAmong_of_ofLines ((Logged.yields_lift _).eq_ok gives) member
      exact ⟨text, inFile ▸ read, stands⟩

theorem mem_of_mem_keepLast {declarations : List Declaration} {declaration : Declaration}
    (member : declaration ∈ keepLast declarations) : declaration ∈ declarations := by
  have either (kept : List Declaration) (known : declaration ∈ declarations.foldl layer kept) :
      declaration ∈ kept ∨ declaration ∈ declarations := by
    clear member
    induction declarations generalizing kept with
    | nil => exact .inl known
    | cons next rest ih =>
      rcases ih _ known with known | known
      · rw [layer, List.mem_append, List.mem_filter, List.mem_singleton] at known
        rcases known with ⟨old, _⟩ | rfl
        · exact .inl old
        · exact .inr List.mem_cons_self
      · exact .inr (List.mem_cons_of_mem next known)
  exact (either [] member).resolve_left List.not_mem_nil

theorem standsIn_of_readFiles {paths : List String} {result : Declarations}
    (gives : Logged.Gives (readFiles disk root paths) result) {declaration : Declaration}
    (member : declaration ∈ result.declared) : StandsIn disk root declaration := by
  obtain ⟨results, read, gives⟩ := gives.of_bind
  cases (Logged.yields_pure _).eq_ok gives
  obtain ⟨part, listed, member⟩ := List.mem_flatMap.mp (mem_of_mem_keepLast member)
  obtain ⟨path, _, given⟩ := read.of_mapM listed
  exact standsIn_of_readFile given member

theorem isSecret_of_readFiles {paths : List String} {result : Declarations}
    (gives : Logged.Gives (readFiles disk root paths) result) {declaration : Declaration}
    (member : declaration ∈ result.declared) :
    declaration.isSecret = Secret.isLikely declaration.name declaration.value [] := by
  obtain ⟨results, read, gives⟩ := gives.of_bind
  cases (Logged.yields_pure _).eq_ok gives
  obtain ⟨part, listed, member⟩ := List.mem_flatMap.mp (mem_of_mem_keepLast member)
  obtain ⟨path, _, given⟩ := read.of_mapM listed
  have nothing (reason : String) (empty : part = unreadable path reason) :
      declaration.isSecret = Secret.isLikely declaration.name declaration.value [] := by
    rw [empty] at member
    cases member
  unfold readFile at given
  dsimp only at given
  split at given
  · obtain ⟨_, _, given⟩ := given.of_bind
    cases (Logged.yields_pure _).eq_ok given
    exact nothing _ rfl
  · split at given
    · cases (Logged.yields_pure _).eq_ok given
      exact nothing _ rfl
    · exact isSecret_of_ofLines ((Logged.yields_lift _).eq_ok given) member

end EnvAudit.Declaration
