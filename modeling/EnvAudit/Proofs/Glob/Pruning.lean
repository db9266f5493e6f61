import EnvAudit.Proofs.Glob.Expansion
import EnvAudit.Proofs.Text.Searching
import EnvAudit.Usage.Survey

/-! Searching a tree without looking into excluded directories. An exclusion that covers a directory covers every path
below it, so that nothing is lost: the search finds exactly the files of the whole tree that an inclusion matches and
no exclusion covers, each once and in order. It gives up where a setting has too many groups or directories lie too
deep. -/
namespace EnvAudit

/-- The names that lead from a tree to one of its files. -/
inductive FileTree.HasFile : FileTree → List String → Prop
  | here {entries : List (String × FileTree)} {name : String} {bytes : List Nat}
      (inside : (name, .file bytes) ∈ entries) : HasFile (.directory entries) [name]
  | deeper {entries inner : List (String × FileTree)} {name : String} {names : List String}
      (inside : (name, .directory inner) ∈ entries) (further : HasFile (.directory inner) names) :
      HasFile (.directory entries) (name :: names)

namespace FileTree

theorem HasFile.ne_nil {tree : FileTree} {names : List String} (found : tree.HasFile names) : names ≠ [] := by
  cases found <;> exact List.cons_ne_nil _ _

theorem hasFile_file (bytes : List Nat) (names : List String) : ¬ (file bytes).HasFile names := by
  intro found
  cases found

def pathOf (names : List String) : List Char := Text.join ['/'] (names.map String.toList)

theorem pathOf_singleton (name : String) : pathOf [name] = name.toList := rfl

theorem append_pathOf_cons (above : List Char) (name : String) {names : List String} (further : names ≠ []) :
    above ++ pathOf (name :: names) = above ++ name.toList ++ ['/'] ++ pathOf names := by
  have inhabited : names.map String.toList ≠ [] := by simpa using further
  have joined : pathOf (name :: names) = name.toList ++ ['/'] ++ pathOf names :=
    Text.join_append ['/'] (List.cons_ne_nil name.toList []) inhabited
  rw [joined, List.append_assoc, List.append_assoc, List.append_assoc]

/-- The names that lead from the entries of a directory to something that a search comes by: every directory on the way
is entered. -/
inductive Seen (enters : List Char → Except Failure Bool) :
    List Char → List (String × FileTree) → List String → FileTree → Prop
  | here {above : List Char} {entries : List (String × FileTree)} {name : String} {tree : FileTree}
      (inside : (name, tree) ∈ entries) : Seen enters above entries [name] tree
  | deeper {above : List Char} {entries inner : List (String × FileTree)} {name : String} {names : List String}
      {tree : FileTree} (inside : (name, directory inner) ∈ entries)
      (entered : enters (above ++ name.toList) = .ok true)
      (further : Seen enters (above ++ name.toList ++ ['/']) inner names tree) :
      Seen enters above entries (name :: names) tree

section Searching
variable {enters keeps : List Char → Except Failure Bool} {levels : Nat} {above : List Char} {name : String}
  {names : List String} {entries first rest : List (String × FileTree)} {tree : FileTree}

theorem Seen.ne_nil (seen : Seen enters above entries names tree) : names ≠ [] := by
  cases seen <;> exact List.cons_ne_nil _ _

theorem Seen.mono (within : first ⊆ rest) (seen : Seen enters above first names tree) :
    Seen enters above rest names tree := by
  cases seen with
  | here inside => exact .here (within inside)
  | deeper inside entered further => exact .deeper (within inside) entered further

theorem not_seen_nil : ¬ Seen enters above [] names tree := by
  intro seen
  cases seen with
  | here inside => cases inside
  | deeper inside => cases inside

theorem seen_cons (entry : String × FileTree) (rest : List (String × FileTree)) :
    Seen enters above (entry :: rest) names tree ↔
      Seen enters above [entry] names tree ∨ Seen enters above rest names tree := by
  constructor
  · intro seen
    cases seen with
    | here inside =>
      rcases List.mem_cons.mp inside with rfl | later
      · exact .inl (.here List.mem_cons_self)
      · exact .inr (.here later)
    | deeper inside entered further =>
      rcases List.mem_cons.mp inside with rfl | later
      · exact .inl (.deeper List.mem_cons_self entered further)
      · exact .inr (.deeper later entered further)
  · rintro (seen | seen)
    · exact seen.mono (List.cons_subset_cons entry (List.nil_subset rest))
    · exact seen.mono (List.subset_cons_self entry rest)

theorem seen_file {bytes : List Nat} :
    Seen enters above [(name, file bytes)] names tree ↔ names = [name] ∧ tree = file bytes := by
  constructor
  · intro seen
    cases seen with
    | here inside =>
      cases List.mem_singleton.mp inside
      exact ⟨rfl, rfl⟩
    | deeper inside => cases List.mem_singleton.mp inside
  · rintro ⟨rfl, rfl⟩
    exact .here List.mem_cons_self

theorem seen_directory : Seen enters above [(name, directory entries)] names tree ↔
    names = [name] ∧ tree = directory entries ∨ enters (above ++ name.toList) = .ok true ∧
      ∃ more, names = name :: more ∧ Seen enters (above ++ name.toList ++ ['/']) entries more tree := by
  constructor
  · intro seen
    cases seen with
    | here inside =>
      cases List.mem_singleton.mp inside
      exact .inl ⟨rfl, rfl⟩
    | deeper inside entered further =>
      cases List.mem_singleton.mp inside
      exact .inr ⟨entered, _, rfl, further⟩
  · rintro (⟨rfl, rfl⟩ | ⟨entered, more, rfl, further⟩)
    · exact .here List.mem_cons_self
    · exact .deeper List.mem_cons_self entered further

def Passes (enters keeps : List Char → Except Failure Bool) (levels : Nat) (above : List Char) (names : List String) :
    FileTree → Prop
  | file _ => Returns (keeps (above ++ pathOf names))
  | directory _ =>
    Returns (enters (above ++ pathOf names)) ∧ (enters (above ++ pathOf names) = .ok true → names.length ≤ levels)

theorem passes_cons (further : names ≠ []) : Passes enters keeps (levels + 1) above (name :: names) tree ↔
    Passes enters keeps levels (above ++ name.toList ++ ['/']) names tree := by
  cases tree with
  | file bytes => rw [Passes, Passes, append_pathOf_cons above name further]
  | directory entries =>
    rw [Passes, Passes, append_pathOf_cons above name further, List.length_cons, Nat.add_le_add_iff_right]

theorem search_directory : search enters keeps levels above (directory entries) = (do
    if ← enters above then
      match levels with
      | 0 => .error .nestingTooDeep
      | levels + 1 => searchEntries enters keeps levels (above ++ ['/']) entries
    else return []) := by
  cases levels <;> rfl

mutual

theorem search_returns (tree : FileTree) {levels : Nat} {above : List Char} {name : String} :
    Returns (search enters keeps levels (above ++ name.toList) tree) ↔
      ∀ names other, Seen enters above [(name, tree)] names other →
        Passes enters keeps levels above names other := by
  match tree with
  | file bytes =>
    simp only [seen_file, and_imp, forall_eq_apply_imp_iff, forall_eq, Passes, pathOf_singleton]
    rw [search, Outcome.returns_bind_iff]
    intro kept _
    split <;> exact Outcome.returns_pure _
  | directory entries =>
    rw [search_directory, Outcome.returns_bind]
    constructor
    · rintro ⟨entered, given, goes⟩ names other seen
      rcases seen_directory.mp seen with ⟨rfl, rfl⟩ | ⟨inner, more, rfl, further⟩
      · refine ⟨⟨entered, given⟩, fun inner => ?_⟩
        cases given.symm.trans inner
        cases levels with
        | zero => exact absurd goes (Outcome.not_returns_error _)
        | succ levels => exact Nat.le_add_left 1 levels
      · cases given.symm.trans inner
        cases levels with
        | zero => exact absurd goes (Outcome.not_returns_error _)
        | succ levels =>
          exact (passes_cons further.ne_nil).mpr ((searchEntries_returns entries).mp goes more other further)
    · intro passes
      obtain ⟨⟨entered, given⟩, deep⟩ := passes [name] (directory entries) (.here List.mem_cons_self)
      refine ⟨entered, given, ?_⟩
      cases entered with
      | false => exact Outcome.returns_pure _
      | true =>
        obtain ⟨fewer, rfl⟩ := Nat.exists_eq_add_of_le' (deep given)
        refine (searchEntries_returns entries).mpr fun names other further => ?_
        exact (passes_cons further.ne_nil).mp (passes _ _ (seen_directory.mpr (.inr ⟨given, names, rfl, further⟩)))

theorem searchEntries_returns (entries : List (String × FileTree)) {levels : Nat} {above : List Char} :
    Returns (searchEntries enters keeps levels above entries) ↔
      ∀ names other, Seen enters above entries names other → Passes enters keeps levels above names other := by
  match entries with
  | [] => exact iff_of_true (Outcome.returns_pure _) fun names other seen => absurd seen not_seen_nil
  | (name, tree) :: rest =>
    simp only [seen_cons (name, tree) rest, or_imp, forall_and]
    rw [searchEntries, Outcome.returns_bind, ← search_returns tree, ← searchEntries_returns rest]
    constructor
    · rintro ⟨found, given, goes⟩
      exact ⟨⟨found, given⟩, Outcome.returns_map.mp goes⟩
    · rintro ⟨⟨found, given⟩, goes⟩
      exact ⟨found, given, Outcome.returns_map.mpr goes⟩

end

mutual

theorem mem_search (tree : FileTree) {levels : Nat} {above : List Char} {name : String} {found : List (List Char)}
    (ok : search enters keeps levels (above ++ name.toList) tree = .ok found) {path : List Char} :
    path ∈ found ↔ ∃ names bytes, Seen enters above [(name, tree)] names (file bytes) ∧
      path = above ++ pathOf names ∧ keeps path = .ok true := by
  match tree with
  | file bytes =>
    rw [search, Outcome.bind_eq_ok] at ok
    obtain ⟨kept, given, same⟩ := ok
    have alone : (∃ names bytes', Seen enters above [(name, file bytes)] names (file bytes') ∧
        path = above ++ pathOf names ∧ keeps path = .ok true) ↔
        path = above ++ name.toList ∧ keeps path = .ok true := by simp [seen_file, pathOf_singleton]
    rw [alone]
    cases kept with
    | true =>
      cases same
      rw [List.mem_singleton]
      exact ⟨fun same => ⟨same, same ▸ given⟩, And.left⟩
    | false =>
      cases same
      refine iff_of_false List.not_mem_nil ?_
      rintro ⟨rfl, kept⟩
      cases given.symm.trans kept
  | directory entries =>
    rw [search_directory, Outcome.bind_eq_ok] at ok
    obtain ⟨entered, given, goes⟩ := ok
    simp only [seen_directory, given, reduceCtorEq, and_false, false_or, Except.ok.injEq]
    cases entered with
    | false =>
      cases goes
      simp
    | true =>
      cases levels with
      | zero => cases goes
      | succ levels =>
        rw [mem_searchEntries entries goes]
        constructor
        · rintro ⟨more, bytes, further, rfl, kept⟩
          exact ⟨name :: more, bytes, ⟨rfl, more, rfl, further⟩, (append_pathOf_cons _ _ further.ne_nil).symm, kept⟩
        · rintro ⟨_, bytes, ⟨_, more, rfl, further⟩, rfl, kept⟩
          exact ⟨more, bytes, further, append_pathOf_cons _ _ further.ne_nil, kept⟩

theorem mem_searchEntries (entries : List (String × FileTree)) {levels : Nat} {above : List Char}
    {found : List (List Char)} (ok : searchEntries enters keeps levels above entries = .ok found)
    {path : List Char} : path ∈ found ↔ ∃ names bytes, Seen enters above entries names (file bytes) ∧
      path = above ++ pathOf names ∧ keeps path = .ok true := by
  match entries with
  | [] =>
    cases ok
    simp [not_seen_nil]
  | (name, tree) :: rest =>
    rw [searchEntries, Outcome.bind_eq_ok] at ok
    obtain ⟨first, given, goes⟩ := ok
    obtain ⟨others, later, same⟩ := Outcome.bind_eq_ok.mp goes
    cases same
    simp only [seen_cons (name, tree) rest, or_and_right, exists_or]
    rw [List.mem_append, mem_search tree given, mem_searchEntries rest later]

end

theorem Seen.hasFile {bytes : List Nat} (seen : Seen enters above entries names (file bytes)) :
    (directory entries).HasFile names := by
  generalize given : file bytes = tree at seen
  induction seen with
  | here inside => exact .here (given ▸ inside)
  | deeper inside _ _ ih => exact .deeper inside (ih given)

/-- Where nothing is kept below a place that is not entered, a search that gets past every directory comes by every
file that is kept. -/
theorem HasFile.seen (closed : ∀ path rest, enters path = .ok false → keeps (path ++ '/' :: rest) ≠ .ok true)
    (passes : ∀ names inner, Seen enters above entries names (directory inner) →
      Returns (enters (above ++ pathOf names)))
    (found : (directory entries).HasFile names) (kept : keeps (above ++ pathOf names) = .ok true) :
    ∃ bytes, Seen enters above entries names (file bytes) := by
  generalize given : directory entries = tree at found
  induction found generalizing above entries with
  | here inside =>
    cases given
    exact ⟨_, .here inside⟩
  | @deeper _ inner name more inside further ih =>
    cases given
    rw [append_pathOf_cons _ _ further.ne_nil] at kept
    obtain ⟨entered, entering⟩ := passes [name] inner (.here inside)
    cases entered with
    | false =>
      refine absurd ?_ (closed (above ++ name.toList) (pathOf more) entering)
      simpa using kept
    | true =>
      have onwards (names : List String) (other : List (String × FileTree))
          (seen : Seen enters (above ++ name.toList ++ ['/']) inner names (directory other)) :
          Returns (enters (above ++ name.toList ++ ['/'] ++ pathOf names)) := by
        rw [← append_pathOf_cons _ _ seen.ne_nil]
        exact passes _ other (.deeper inside entering seen)
      obtain ⟨bytes, seen⟩ := ih onwards kept rfl
      exact ⟨bytes, .deeper inside entering seen⟩

end Searching
end FileTree

namespace Glob

section Stripping
variable {text : List Char}

theorem stripped_of_none (found : Text.dropStart? "./".toList (Text.trim text) = none) :
    stripped text = Text.trim text := by rw [stripped, found, Option.getD_none]

theorem stripped_of_some {rest : List Char} (found : Text.dropStart? "./".toList (Text.trim text) = some rest) :
    stripped text = rest := by rw [stripped, found, Option.getD_some]

theorem trim_of_stripped (clean : stripped text = text) : Text.trim text = text := by
  cases found : Text.dropStart? "./".toList (Text.trim text) with
  | none => exact (stripped_of_none found).symm.trans clean
  | some rest =>
    obtain ⟨lead, trail, _, _, split⟩ := Text.trim_parts text
    have shorter := congrArg List.length split
    rw [Text.eq_append_of_dropStart? found, (stripped_of_some found).symm.trans clean] at shorter
    simp at shorter
    omega

theorem stripped_parts (setting : List Char) : ∃ lead trail, setting = lead ++ stripped setting ++ trail ∧
    '\x7b' ∉ lead ∧ '\x7d' ∉ trail ∧ ∀ text, stripped text = text → stripped (lead ++ text ++ trail) = text := by
  obtain ⟨lead, trail, blank, blank', split⟩ := Text.trim_parts setting
  have noOpener : '\x7b' ∉ lead := fun member => absurd (blank _ member) (by decide)
  have noCloser : '\x7d' ∉ trail := fun member => absurd (blank' _ member) (by decide)
  cases found : Text.dropStart? "./".toList (Text.trim setting) with
  | none =>
    refine ⟨lead, trail, ?_, noOpener, noCloser, ?_⟩
    · rw [stripped_of_none found, List.append_assoc]
      exact split
    · intro text clean
      rw [stripped, Text.trim_append_right blank', Text.trim_append blank, ← stripped, clean]
  | some rest =>
    refine ⟨lead ++ "./".toList, trail, ?_, ?_, noCloser, ?_⟩
    · rw [Text.eq_append_of_dropStart? found] at split
      rw [stripped_of_some found, List.append_assoc, List.append_assoc, ← List.append_assoc "./".toList]
      exact split
    · exact List.not_mem_append noOpener (by decide)
    · intro text clean
      have trimmed := trim_of_stripped clean
      have ended : Text.trimEnd text = text := by
        rw [← trimmed, Text.trim, Text.trimEnd_trimEnd]
      have slashed : Text.trimEnd ('/' :: text) = '/' :: Text.trimEnd text :=
        Text.trimEnd_append_cons (by decide) [] text
      have left : Text.trim ("./".toList ++ text) = "./".toList ++ text := by
        change Text.trim ('.' :: '/' :: text) = '.' :: '/' :: text
        rw [Text.trim_cons (by decide), slashed, ended]
      rw [stripped, Text.trim_append_right blank', List.append_assoc, Text.trim_append blank, left,
        Text.dropStart?_append, Option.getD_some]

theorem groups_append {lead trail : List Char} (noOpener : '\x7b' ∉ lead) (noCloser : '\x7d' ∉ trail)
    (text : List Char) : groups (lead ++ text ++ trail) = groups text := by
  rw [groups, List.append_assoc, pairs_of_no_opener noOpener, pairs_append_right noCloser, groups]

theorem groups_stripped (setting : List Char) : groups (stripped setting) = groups setting := by
  obtain ⟨lead, trail, split, noOpener, noCloser, _⟩ := stripped_parts setting
  conv_rhs => rw [split, groups_append noOpener noCloser]

end Stripping

theorem mem_ancestors {path directory : List Char} :
    directory ∈ ancestors path ↔ ∃ rest, path = directory ++ '/' :: rest := by
  simp only [ancestors, List.mem_map, List.mem_range]
  constructor
  · rintro ⟨n, bound, rfl⟩
    have first : (Text.pieces '/' path).take (n + 1) ≠ [] := by
      simpa using Text.pieces_ne_nil '/' path
    have second : (Text.pieces '/' path).drop (n + 1) ≠ [] := by
      rw [ne_eq, List.drop_eq_nil_iff]
      omega
    refine ⟨Text.join ['/'] ((Text.pieces '/' path).drop (n + 1)), ?_⟩
    have joined := Text.join_append ['/'] first second
    rw [List.take_append_drop, Text.join_pieces] at joined
    simpa using joined
  · rintro ⟨rest, rfl⟩
    have own := List.length_pos_iff.mpr (Text.pieces_ne_nil '/' directory)
    have further := List.length_pos_iff.mpr (Text.pieces_ne_nil '/' rest)
    rw [Text.pieces_append, List.length_append]
    refine ⟨(Text.pieces '/' directory).length - 1, by omega, ?_⟩
    rw [Nat.sub_add_cancel own, List.take_left, Text.join_pieces]

section Excluding
variable {setting directory path : List Char} {settings : List (List Char)}

/-- Whether a glob covers a path or a directory above it; slashes at its end do not count. -/
def reaches (glob path : List Char) : Bool :=
  let glob := Text.dropEndWhile (· == '/') glob
  covers glob path || (ancestors path).any (covers glob)

def bans (setting path : List Char) : Bool :=
  if isBareName setting then (Text.pieces '/' path).contains setting
  else (expansion (stripped setting)).any (reaches · path)

theorem isBareName_iff : isBareName setting = true ↔
    '/' ∉ setting ∧ '*' ∉ setting ∧ '?' ∉ setting ∧ '\x7b' ∉ setting := by
  simp [isBareName, and_assoc]

theorem alternatives_eq (setting : List Char) : alternatives setting = if groups setting < expansionLimit then
    .ok ((expansion (stripped setting)).map (Text.dropEndWhile (· == '/'))) else .error .nestingTooDeep := by
  rw [alternatives, expand, expandWithin_eq, groups_stripped]
  split <;> rfl

/-- A setting tells what it excludes unless it has too many groups. -/
theorem excludedBy_eq (setting path : List Char) : excludedBy setting path =
    if groups setting < expansionLimit then .ok (bans setting path) else .error .nestingTooDeep := by
  rw [excludedBy, bans]
  cases kind : isBareName setting with
  | true =>
    have few := pairs_of_no_opener (isBareName_iff.mp kind).2.2.2 []
    rw [List.append_nil] at few
    rw [if_pos rfl, if_pos rfl, groups, few, if_pos (by decide)]
    rfl
  | false =>
    rw [if_neg Bool.false_ne_true, if_neg Bool.false_ne_true, alternatives_eq]
    split
    · simp only [bind, Except.bind, pure, Except.pure, List.any_map]
      rfl
    · rfl

theorem excludes_cons (setting : List Char) (settings : List (List Char)) (path : List Char) :
    excludes (setting :: settings) path =
      if groups setting < expansionLimit then if bans setting path then .ok true else excludes settings path
      else .error .nestingTooDeep := by
  rw [excludes, List.anyM, excludedBy_eq]
  by_cases few : groups setting < expansionLimit
  · rw [if_pos few, if_pos few]
    cases bans setting path <;> rfl
  · rw [if_neg few, if_neg few]
    rfl

theorem excludes_of_few (few : ∀ setting ∈ settings, groups setting < expansionLimit) (path : List Char) :
    excludes settings path = .ok (settings.any (bans · path)) := by
  induction settings with
  | nil => rfl
  | cons setting settings ih =>
    obtain ⟨first, few⟩ := List.forall_mem_cons.mp few
    rw [excludes_cons, if_pos first, ih few, List.any_cons]
    cases bans setting path <;> rfl

theorem bans_below (rest : List Char) (banned : bans setting directory = true) :
    bans setting (directory ++ '/' :: rest) = true := by
  unfold bans at banned ⊢
  split
  · next bare =>
    rw [if_pos bare, List.contains_iff_mem] at banned
    rw [Text.pieces_append, List.contains_iff_mem]
    exact List.mem_append_left _ banned
  · next wild =>
    rw [if_neg wild, List.any_eq_true] at banned
    obtain ⟨glob, alternative, covered⟩ := banned
    refine List.any_eq_true.mpr ⟨glob, alternative, ?_⟩
    rw [reaches, Bool.or_eq_true, List.any_eq_true] at covered ⊢
    right
    rcases covered with itself | ⟨higher, above, covered⟩
    · exact ⟨directory, mem_ancestors.mpr ⟨rest, rfl⟩, itself⟩
    · obtain ⟨between, rfl⟩ := mem_ancestors.mp above
      exact ⟨higher, mem_ancestors.mpr ⟨between ++ '/' :: rest, by simp⟩, covered⟩

theorem excludes_below (rest : List Char) (excluded : excludes settings directory = .ok true) :
    excludes settings (directory ++ '/' :: rest) = .ok true := by
  induction settings with
  | nil => cases excluded
  | cons setting settings ih =>
    rw [excludes_cons] at excluded ⊢
    split at excluded
    · next few =>
      rw [if_pos few]
      split at excluded
      · next banned => rw [if_pos (bans_below rest banned)]
      · split
        · rfl
        · exact ih excluded
    · cases excluded

theorem excludes_returns : Returns (excludes settings path) ↔ ∀ before setting after,
    settings = before ++ setting :: after → expansionLimit ≤ groups setting →
      ∃ earlier ∈ before, excludedBy earlier path = .ok true := by
  induction settings with
  | nil => exact iff_of_true ⟨false, rfl⟩ fun before setting after split => by simp at split
  | cons first settings ih =>
    rw [excludes_cons]
    by_cases few : groups first < expansionLimit
    · rw [if_pos few]
      have told : excludedBy first path = .ok (bans first path) := (excludedBy_eq first path).trans (if_pos few)
      cases banned : bans first path with
      | true =>
        refine iff_of_true (Outcome.returns_ok true) fun before setting after split many => ?_
        rcases List.cons_eq_append_iff.mp split with ⟨rfl, same⟩ | ⟨others, rfl, _⟩
        · cases same
          omega
        · exact ⟨first, List.mem_cons_self, told.trans (congrArg _ banned)⟩
      | false =>
        rw [if_neg Bool.false_ne_true, ih]
        constructor
        · intro each before setting after split many
          rcases List.cons_eq_append_iff.mp split with ⟨rfl, same⟩ | ⟨others, rfl, later⟩
          · cases same
            omega
          · obtain ⟨earlier, member, excluded⟩ := each others setting after later many
            exact ⟨earlier, List.mem_cons_of_mem first member, excluded⟩
        · rintro each before setting after rfl many
          obtain ⟨earlier, member, excluded⟩ := each (first :: before) setting after rfl many
          rcases List.mem_cons.mp member with rfl | member
          · rw [told, banned] at excluded
            cases excluded
          · exact ⟨earlier, member, excluded⟩
    · rw [if_neg few]
      refine iff_of_false (Outcome.not_returns_error _) fun each => ?_
      obtain ⟨earlier, member, _⟩ := each [] first settings rfl (Nat.le_of_not_lt few)
      cases member

end Excluding

section Choosing
variable {included excluded : List (List Char)} {entries : List (String × FileTree)} {path : List Char}

def Includes (settings : List (List Char)) (path : List Char) : Prop :=
  ∃ setting ∈ settings, ∃ globs, alternatives setting = .ok globs ∧ ∃ glob ∈ globs, covers glob path = true

def Chooses (included excluded : List (List Char)) (path : List Char) : Prop :=
  Includes included path ∧ excludes excluded path = .ok false

theorem globs_returns : Returns (globs included) ↔ ∀ setting ∈ included, groups setting < expansionLimit := by
  rw [globs, Outcome.returns_bind_iff fun _ _ => Outcome.returns_pure _, Outcome.mapM_returns]
  refine forall₂_congr fun setting _ => ?_
  rw [alternatives_eq]
  split
  · next few => exact iff_of_true (Outcome.returns_ok _) few
  · next many => exact iff_of_false (Outcome.not_returns_error _) many

theorem any_globs {all : List (List Char)} (ok : globs included = .ok all) :
    all.any (covers · path) = true ↔ Includes included path := by
  obtain ⟨lists, given, same⟩ := Outcome.bind_eq_ok.mp ok
  cases same
  simp only [List.any_eq_true, List.mem_flatten, Outcome.mem_of_mapM given, Includes]
  constructor
  · rintro ⟨glob, ⟨globs, ⟨setting, member, expanded⟩, inside⟩, covered⟩
    exact ⟨setting, member, globs, expanded, glob, inside, covered⟩
  · rintro ⟨setting, member, globs, expanded, glob, inside, covered⟩
    exact ⟨glob, ⟨globs, ⟨setting, member, expanded⟩, inside⟩, covered⟩

theorem spares_eq_ok {value : Bool} : spares excluded path = .ok value ↔ excludes excluded path = .ok (!value) := by
  rw [spares]
  cases excludes excluded path with
  | error failure => exact iff_of_false (by rintro ⟨⟩) (by rintro ⟨⟩)
  | ok told => cases told <;> cases value <;> simp [bind, Except.bind, pure, Except.pure]

theorem spares_returns : Returns (spares excluded path) ↔ Returns (excludes excluded path) := Outcome.returns_map

theorem keeps_eq_ok {globs : List (List Char)} : keeps globs excluded path = .ok true ↔
    globs.any (covers · path) = true ∧ excludes excluded path = .ok false := by
  rw [keeps]
  split
  · next covered => simp [covered, spares_eq_ok]
  · next bare => simp [bare, pure, Except.pure]

theorem keeps_returns {globs : List (List Char)} : Returns (keeps globs excluded path) ↔
    (globs.any (covers · path) = true → Returns (excludes excluded path)) := by
  rw [keeps]
  split
  · next covered => simp [covered, spares_returns]
  · next bare => simp [bare]

theorem select_increasing {files : List String} (ok : select included excluded entries = .ok files) :
    files.Pairwise (· < ·) := by
  obtain ⟨found, _, same⟩ := Outcome.bind_eq_ok.mp ok
  cases same
  exact sortStrings_increasing (Text.nodup_distinct _)

theorem select_returns : Returns (select included excluded entries) ↔
    ∀ names tree, FileTree.Seen (spares excluded) [] entries names tree →
      FileTree.Passes (spares excluded) (keeps included excluded) FileTree.walkLimit [] names tree :=
  Outcome.returns_map.trans (FileTree.searchEntries_returns entries)

theorem keeps_below (path rest : List Char) (spared : spares excluded path = .ok false) :
    keeps included excluded (path ++ '/' :: rest) ≠ .ok true := by
  intro kept
  cases (excludes_below rest (spares_eq_ok.mp spared)).symm.trans (keeps_eq_ok.mp kept).2

theorem mem_select {files : List String} (ok : select included excluded entries = .ok files) {path : String} :
    path ∈ files ↔ (∃ names, (FileTree.directory entries).HasFile names ∧ path = joinWith "/" names) ∧
      keeps included excluded path.toList = .ok true := by
  have passes := select_returns.mp ⟨files, ok⟩
  obtain ⟨found, given, same⟩ := Outcome.bind_eq_ok.mp ok
  cases same
  rw [mem_sortStrings, Text.mem_distinct]
  constructor
  · intro member
    obtain ⟨text, inside, rfl⟩ := List.mem_map.mp member
    obtain ⟨names, bytes, seen, rfl, kept⟩ := (FileTree.mem_searchEntries entries given).mp inside
    exact ⟨⟨names, seen.hasFile, rfl⟩, by simpa using kept⟩
  · rintro ⟨⟨names, inside, rfl⟩, kept⟩
    have kept : keeps included excluded ([] ++ FileTree.pathOf names) = .ok true := by
      simpa [joinWith, FileTree.pathOf] using kept
    have told (names : List String) (inner : List (String × FileTree))
        (seen : FileTree.Seen (spares excluded) [] entries names (.directory inner)) :
        Returns (spares excluded ([] ++ FileTree.pathOf names)) := (passes names _ seen).1
    obtain ⟨bytes, seen⟩ := inside.seen keeps_below told kept
    exact List.mem_map.mpr ⟨_, (FileTree.mem_searchEntries entries given).mpr ⟨names, bytes, seen, rfl, kept⟩, rfl⟩

end Choosing
end Glob

namespace Usage
open Logged

def chosen (disk : Disk) (root : Path) (included excluded : List String) : Except Failure (List String) := do
  let globs ← Glob.globs (included.map String.toList)
  match disk.find? root with
  | .ok (.directory entries) => Glob.select globs (excluded.map String.toList) entries
  | _ => return []

theorem chosenFiles_yields (disk : Disk) (root : Path) (included excluded : List String) :
    Yields (chosenFiles disk root included excluded) (chosen disk root included excluded) := by
  refine (yields_lift (Glob.globs (included.map String.toList))).bind fun globs => ?_
  cases disk.find? root with
  | error fault => exact yields_report.bind fun _ => yields_pure _
  | ok tree =>
    cases tree with
    | file bytes => exact yields_report.bind fun _ => yields_pure _
    | directory entries => exact yields_lift _

/-- Whether files can be chosen below a directory: the inclusions have few enough groups, the exclusions that are asked
about a directory or an included file tell whether they exclude it, and the directories that are entered do not lie too
deep. -/
structure CanChoose (disk : Disk) (root : Path) (included excluded : List String) : Prop where
  inclusions : ∀ setting ∈ included, Glob.groups setting.toList < Glob.expansionLimit
  directories : ∀ entries names inner, disk.find? root = .ok (.directory entries) →
    FileTree.Seen (Glob.spares (excluded.map String.toList)) [] entries names (.directory inner) →
      Returns (Glob.excludes (excluded.map String.toList) (FileTree.pathOf names)) ∧
      (Glob.excludes (excluded.map String.toList) (FileTree.pathOf names) = .ok false →
        names.length ≤ FileTree.walkLimit)
  files : ∀ entries names bytes, disk.find? root = .ok (.directory entries) →
    FileTree.Seen (Glob.spares (excluded.map String.toList)) [] entries names (.file bytes) →
      Glob.Includes (included.map String.toList) (FileTree.pathOf names) →
        Returns (Glob.excludes (excluded.map String.toList) (FileTree.pathOf names))

variable {disk : Disk} {root : Path} {included excluded : List String} {files : List String}

theorem chosen_returns : Returns (chosen disk root included excluded) ↔ CanChoose disk root included excluded := by
  rw [chosen, Outcome.returns_bind]
  constructor
  · rintro ⟨globs, given, goes⟩
    have few := Glob.globs_returns.mp ⟨globs, given⟩
    refine ⟨fun setting member => few _ (List.mem_map_of_mem member), ?_, ?_⟩
    · intro entries names inner place seen
      rw [place] at goes
      obtain ⟨told, deep⟩ := Glob.select_returns.mp goes names _ seen
      exact ⟨Glob.spares_returns.mp told, fun open' => deep (Glob.spares_eq_ok.mpr open')⟩
    · intro entries names bytes place seen covered
      rw [place] at goes
      exact Glob.keeps_returns.mp (Glob.select_returns.mp goes names _ seen) ((Glob.any_globs given).mpr covered)
  · rintro ⟨few, directories, kept⟩
    have few : ∀ setting ∈ included.map String.toList, Glob.groups setting < Glob.expansionLimit := by
      simpa using few
    obtain ⟨globs, given⟩ := Glob.globs_returns.mpr few
    refine ⟨globs, given, ?_⟩
    split
    · next entries place =>
      refine Glob.select_returns.mpr fun names tree seen => ?_
      cases tree with
      | file bytes =>
        refine Glob.keeps_returns.mpr fun covered => ?_
        exact kept entries names bytes place seen ((Glob.any_globs given).mp covered)
      | directory inner =>
        obtain ⟨told, deep⟩ := directories entries names inner place seen
        exact ⟨Glob.spares_returns.mpr told, fun entered => deep (Glob.spares_eq_ok.mp entered)⟩
    · exact Outcome.returns_pure _

theorem chosen_increasing (ok : chosen disk root included excluded = .ok files) : files.Pairwise (· < ·) := by
  obtain ⟨globs, _, goes⟩ := Outcome.bind_eq_ok.mp ok
  split at goes
  · exact Glob.select_increasing goes
  · cases goes
    exact List.Pairwise.nil

theorem mem_chosen (ok : chosen disk root included excluded = .ok files) {path : String} : path ∈ files ↔
    (∃ tree names, disk.find? root = .ok tree ∧ tree.HasFile names ∧ path = joinWith "/" names) ∧
      Glob.Chooses (included.map String.toList) (excluded.map String.toList) path.toList := by
  obtain ⟨globs, given, goes⟩ := Outcome.bind_eq_ok.mp ok
  split at goes
  · next entries place =>
    rw [Glob.mem_select goes, Glob.keeps_eq_ok, Glob.any_globs given, place]
    simp [Glob.Chooses]
  · next other =>
    cases goes
    refine iff_of_false List.not_mem_nil ?_
    rintro ⟨⟨tree, names, place, inside, _⟩, _⟩
    cases tree with
    | file bytes => exact FileTree.hasFile_file bytes names inside
    | directory entries => exact other entries place

/-- Files are chosen exactly under the conditions above. They are the files of the whole tree that an inclusion covers
and no exclusion excludes, in order and each once. -/
theorem chosenFiles_exact (disk : Disk) (root : Path) (included excluded : List String) :
    (Returns (chosenFiles disk root included excluded).outcome.1 ↔ CanChoose disk root included excluded) ∧
    ∀ files, (chosenFiles disk root included excluded).outcome.1 = .ok files → files.Pairwise (· < ·) ∧
      ∀ path, path ∈ files ↔
        (∃ tree names, disk.find? root = .ok tree ∧ tree.HasFile names ∧ path = joinWith "/" names) ∧
          Glob.Chooses (included.map String.toList) (excluded.map String.toList) path.toList := by
  rw [(chosenFiles_yields disk root included excluded).outcome_eq]
  exact ⟨chosen_returns, fun files ok => ⟨chosen_increasing ok, fun path => mem_chosen ok⟩⟩

def sourceDisk : Disk where
  tree := .directory [("src", .directory [("a.ts", .file []), ("a.md", .file [])]),
    ("dist", .directory [("a.js", .file [])])]
  working := ⟨"/", []⟩

theorem chosenFiles_exact_sources :
    (chosenFiles sourceDisk (.ofString "/") ["./**/*.\x7bts,js\x7d"] ["dist"]).outcome.1 = .ok ["src/a.ts"] ∧
    (∃ tree names, sourceDisk.find? (.ofString "/") = .ok tree ∧ tree.HasFile names ∧
      "src/a.ts" = joinWith "/" names) ∧
    Glob.Chooses ["./**/*.\x7bts,js\x7d".toList] ["dist".toList] "src/a.ts".toList := by
  have chosen : (chosenFiles sourceDisk (.ofString "/") ["./**/*.\x7bts,js\x7d"] ["dist"]).outcome.1 =
      .ok ["src/a.ts"] := Outcome.eq_ok_of_toOption (by decide +kernel)
  exact ⟨chosen, ((chosenFiles_exact _ _ _ _).2 _ chosen).2 "src/a.ts" |>.mp List.mem_cons_self⟩

/-- An inclusion with too many groups chooses nothing anywhere, not even no files. -/
theorem not_returns_of_many_groups (disk : Disk) (root : Path) (excluded : List String) {setting : String}
    (many : Glob.expansionLimit ≤ Glob.groups setting.toList) :
    ¬ Returns (chosenFiles disk root [setting] excluded).outcome.1 := by
  rw [(chosenFiles_yields disk root [setting] excluded).outcome_eq, chosen_returns]
  intro can
  have few := can.inclusions setting List.mem_cons_self
  omega

end Usage
end EnvAudit
