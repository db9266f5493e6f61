import EnvAudit.Disk
import EnvAudit.Glob.Selection

/-! Changing the bytes of one file. The outline of a tree is what remains of it without the bytes of its files. It
decides where paths lead and which files a search finds, and writing to a file that stands already leaves it as it is,
so that every path that does not lead to this file reads the same as before. -/
namespace EnvAudit
namespace FileTree

mutual

def outline : FileTree → FileTree
  | file _ => file []
  | directory entries => directory (outlineOf entries)

def outlineOf : List (String × FileTree) → List (String × FileTree)
  | [] => []
  | (name, tree) :: rest => (name, outline tree) :: outlineOf rest

end

theorem lookup_outlineOf (name : String) (entries : List (String × FileTree)) :
    (outlineOf entries).lookup name = (entries.lookup name).map outline := by
  induction entries with
  | nil => rfl
  | cons entry rest ih =>
    obtain ⟨other, tree⟩ := entry
    rw [outlineOf, List.lookup_cons, List.lookup_cons, ih]
    split <;> rfl

theorem lookup_entries_outline (name : String) (tree : FileTree) :
    tree.outline.entries.lookup name = (tree.entries.lookup name).map outline := by
  cases tree with
  | file bytes => rfl
  | directory entries => exact lookup_outlineOf name entries

theorem at?_outline (names : List String) (tree : FileTree) :
    tree.outline.at? names = (tree.at? names).map outline := by
  induction names generalizing tree with
  | nil => rfl
  | cons name rest ih =>
    rw [at?, at?, lookup_entries_outline]
    cases tree.entries.lookup name with
    | none => rfl
    | some inner => exact ih inner

mutual

theorem search_outline (enters keeps : List Char → Except Failure Bool) (levels : Nat) (path : List Char)
    (tree : FileTree) : search enters keeps levels path tree.outline = search enters keeps levels path tree := by
  match tree with
  | file bytes => rfl
  | directory entries =>
    cases levels with
    | zero => rfl
    | succ levels => rw [outline, search, search, searchEntries_outline]

theorem searchEntries_outline (enters keeps : List Char → Except Failure Bool) (levels : Nat) (above : List Char)
    (entries : List (String × FileTree)) :
    searchEntries enters keeps levels above (outlineOf entries) = searchEntries enters keeps levels above entries := by
  match entries with
  | [] => rfl
  | (name, tree) :: rest =>
    rw [outlineOf, searchEntries, searchEntries, search_outline, searchEntries_outline]

end

variable {old new : List Nat} {names : List String} {tree : FileTree}

theorem outlineOf_setField {name : String} {entries : List (String × FileTree)} {inner other : FileTree}
    (known : entries.lookup name = some inner) (same : other.outline = inner.outline) :
    outlineOf (Json.setField name other entries) = outlineOf entries := by
  induction entries with
  | nil => cases known
  | cons entry rest ih =>
    obtain ⟨first, tree⟩ := entry
    rw [Json.setField]
    by_cases here : first = name
    · rw [List.lookup_cons, beq_iff_eq.mpr here.symm] at known
      cases known
      rw [if_pos here, outlineOf, outlineOf, same]
    · rw [List.lookup_cons, beq_false_of_ne (Ne.symm here)] at known
      rw [if_neg here, outlineOf, outlineOf, ih known]

theorem at?_cons_eq_some {name : String} {rest : List String} {found : FileTree}
    (stands : tree.at? (name :: rest) = some found) : ∃ entries inner, tree = directory entries ∧
      entries.lookup name = some inner ∧ inner.at? rest = some found := by
  obtain ⟨inner, known, further⟩ := Option.bind_eq_some_iff.mp stands
  cases tree with
  | file bytes => cases known
  | directory entries => exact ⟨entries, inner, rfl, known, further⟩

theorem put_cons {name : String} {rest : List String} {entries : List (String × FileTree)} {inner content : FileTree}
    (known : entries.lookup name = some inner) :
    put content (name :: rest) (directory entries) =
      directory (Json.setField name (put content rest inner) entries) := by
  rw [put, FileTree.entries, known, Option.getD_some]

theorem outline_put (stands : tree.at? names = some (file old)) :
    (put (file new) names tree).outline = tree.outline := by
  induction names generalizing tree with
  | nil =>
    cases stands
    rfl
  | cons name rest ih =>
    obtain ⟨entries, inner, rfl, known, further⟩ := at?_cons_eq_some stands
    rw [put_cons known, outline, outline, outlineOf_setField known (ih further)]

theorem at?_put_of_ne {place : List String} {bytes : List Nat} (stands : tree.at? names = some (file old))
    (other : place ≠ names) :
    (put (file new) names tree).at? place = some (file bytes) ↔ tree.at? place = some (file bytes) := by
  induction names generalizing tree place with
  | nil =>
    cases stands
    cases place with
    | nil => exact absurd rfl other
    | cons name rest => exact Iff.rfl
  | cons name rest ih =>
    obtain ⟨entries, inner, rfl, known, further⟩ := at?_cons_eq_some stands
    rw [put_cons known]
    cases place with
    | nil => simp [at?]
    | cons first more =>
      rw [at?, at?, FileTree.entries, FileTree.entries]
      by_cases same : first = name
      · subst same
        rw [Json.lookup_setField_same, known]
        exact ih further fun rest => other (rest ▸ rfl)
      · rw [Json.lookup_setField_of_ne same]

end FileTree

namespace Disk

theorem follow_outline (tree : FileTree) (reached names : List String) :
    follow tree.outline reached names = follow tree reached names := by
  induction names generalizing reached with
  | nil => rfl
  | cons name rest ih =>
    rw [follow, follow, FileTree.at?_outline]
    cases tree.at? reached with
    | none => rfl
    | some found =>
      cases found with
      | file bytes => rfl
      | directory entries =>
        simp only [Option.map_some, FileTree.outline, FileTree.lookup_outlineOf, Option.isSome_map, ih]

def withBytes (disk : Disk) (names : List String) (bytes : List Nat) : Disk :=
  { disk with tree := FileTree.put (.file bytes) names disk.tree }

variable {disk : Disk} {names : List String} {old : List Nat} (new : List Nat)

theorem locate_withBytes (stands : disk.tree.at? names = some (.file old)) (path : Path) :
    (disk.withBytes names new).locate path = disk.locate path := by
  rw [locate, locate, withBytes, ← follow_outline, FileTree.outline_put stands, follow_outline]

theorem at?_withBytes_outline (stands : disk.tree.at? names = some (.file old)) (place : List String) :
    ((disk.withBytes names new).tree.at? place).map FileTree.outline = (disk.tree.at? place).map FileTree.outline := by
  rw [← FileTree.at?_outline, ← FileTree.at?_outline, withBytes, FileTree.outline_put stands]

theorem find?_withBytes (stands : disk.tree.at? names = some (.file old)) (path : Path) :
    ((disk.withBytes names new).find? path).map FileTree.outline = (disk.find? path).map FileTree.outline := by
  rw [find?, find?, locate_withBytes new stands]
  cases disk.locate path with
  | error fault => rfl
  | ok place =>
    have same := at?_withBytes_outline new stands place
    simp only [bind, Except.bind]
    cases found : disk.tree.at? place with
    | none =>
      rw [found, Option.map_none, Option.map_eq_none_iff] at same
      rw [same]
    | some tree =>
      rw [found, Option.map_some] at same
      obtain ⟨changed, there, outlines⟩ := Option.map_eq_some_iff.mp same
      rw [there]
      exact congrArg Except.ok outlines

/-- Every path that does not lead to the changed file reads the same as before. -/
theorem readText_withBytes (stands : disk.tree.at? names = some (.file old)) {path : Path}
    (other : disk.locate path ≠ .ok names) : (disk.withBytes names new).readText path = disk.readText path := by
  rw [readText, readText, find?, find?, locate_withBytes new stands]
  cases located : disk.locate path with
  | error fault => rfl
  | ok place =>
    have differs : place ≠ names := fun same => other (same ▸ located)
    have same := at?_withBytes_outline new stands place
    simp only [bind, Except.bind]
    cases found : disk.tree.at? place with
    | none =>
      rw [found, Option.map_none, Option.map_eq_none_iff] at same
      rw [same]
    | some tree =>
      cases tree with
      | file bytes =>
        have kept : (disk.withBytes names new).tree.at? place = some (.file bytes) :=
          (FileTree.at?_put_of_ne stands differs).mpr found
        rw [kept]
      | directory entries =>
        rw [found, Option.map_some] at same
        obtain ⟨changed, there, outlines⟩ := Option.map_eq_some_iff.mp same
        cases changed with
        | file bytes => cases outlines
        | directory others =>
          rw [there]
          rfl

end Disk
end EnvAudit
