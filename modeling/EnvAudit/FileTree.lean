import EnvAudit.Failure
import EnvAudit.Json.Value
import EnvAudit.Path
import EnvAudit.Text.Utf8

/-! Files and directories. A tree is a plain value; what is read from it and what is written to it depends on nothing
else. -/
namespace EnvAudit

inductive FileTree
  | file (bytes : List Nat)
  | directory (entries : List (String × FileTree))
deriving Repr, Inhabited

namespace FileTree

def isFile : FileTree → Bool
  | file _ => true
  | directory _ => false

def isDirectory (tree : FileTree) : Bool := !tree.isFile

def entries : FileTree → List (String × FileTree)
  | file _ => []
  | directory entries => entries

def at? : List String → FileTree → Option FileTree
  | [], tree => some tree
  | name :: rest, tree => (tree.entries.lookup name).bind (at? rest)

def put (content : FileTree) : List String → FileTree → FileTree
  | [], _ => content
  | name :: rest, tree =>
    let inner := (tree.entries.lookup name).getD (directory [])
    directory (Json.setField name (put content rest inner) tree.entries)

def remove : List String → FileTree → FileTree
  | [], _ => directory []
  | [name], tree => directory (tree.entries.filter (·.1 != name))
  | name :: rest, tree =>
    match tree.entries.lookup name with
    | some inner => directory (Json.setField name (remove rest inner) tree.entries)
    | none => tree

/-- How many directories inside one another a search can enter. -/
def walkLimit : Nat := 970

mutual

/-- The path of a file that is kept, or the paths of the kept files below a directory that is entered. Only the given
number of directories inside one another can be entered. -/
def search (enters keeps : List Char → Except Failure Bool) (levels : Nat) (path : List Char) :
    FileTree → Except Failure (List (List Char))
  | file _ => do
    if ← keeps path then return [path] else return []
  | directory entries => do
    if ← enters path then
      match levels with
      | 0 => .error .nestingTooDeep
      | levels + 1 => searchEntries enters keeps levels (path ++ ['/']) entries
    else return []
termination_by structural tree => tree

/-- The paths of the kept files among the entries of a directory; a path is seen from where the search began. -/
def searchEntries (enters keeps : List Char → Except Failure Bool) (levels : Nat) (above : List Char) :
    List (String × FileTree) → Except Failure (List (List Char))
  | [] => return []
  | (name, tree) :: rest => do
    let found ← search enters keeps levels (above ++ name.toList) tree
    return found ++ (← searchEntries enters keeps levels above rest)
termination_by structural entries => entries

end

end FileTree
end EnvAudit
