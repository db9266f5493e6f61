import EnvAudit.FileTree
import EnvAudit.Glob
import EnvAudit.Text.Basic
import EnvAudit.Text.Blank

/-! Brace groups. The first group without braces inside is replaced by each of its alternatives in turn, and the
results are expanded again. -/
namespace EnvAudit.Glob

def isBrace (c : Char) : Bool := c == '\x7b' || c == '\x7d'

def firstGroup? : List Char → Option (List Char × List Char × List Char)
  | [] => none
  | c :: rest =>
    let body := rest.takeWhile (!isBrace ·)
    match c, rest.drop body.length with
    | '\x7b', '\x7d' :: tail => some ([], body, tail)
    | _, _ => (firstGroup? rest).map fun (head, body, tail) => (c :: head, body, tail)

/-- How many calls of one function can be open inside one another. -/
def expansionLimit : Nat := 970

/-- The alternatives of a pattern, where each replacement takes one call inside the last one. -/
def expandWithin : Nat → List Char → Except Failure (List (List Char))
  | 0, _ => .error .nestingTooDeep
  | calls + 1, pattern =>
    match firstGroup? pattern with
    | none => return [pattern]
    | some (head, body, tail) => do
      return (← (Text.pieces ',' body).mapM fun option => expandWithin calls (head ++ option ++ tail)).flatten

def expand (pattern : List Char) : Except Failure (List (List Char)) := expandWithin expansionLimit pattern

/-! Choosing files by globs. An inclusion matches the whole path; an exclusion also covers everything below a path
that it matches, and a bare name excludes every path with a component of that name. -/

def stripped (setting : List Char) : List Char :=
  (Text.dropStart? "./".toList (Text.trim setting)).getD (Text.trim setting)

def alternatives (setting : List Char) : Except Failure (List (List Char)) := do
  return (← expand (stripped setting)).map (Text.dropEndWhile (· == '/'))

def globs (settings : List (List Char)) : Except Failure (List (List Char)) := do
  return (← settings.mapM alternatives).flatten

/-- A setting without slash, wildcard and brace names a component. -/
def isBareName (setting : List Char) : Bool :=
  !setting.contains '/' && !setting.contains '*' && !setting.contains '?' && !setting.contains '\x7b'

def ancestors (path : List Char) : List (List Char) :=
  let components := Text.pieces '/' path
  (List.range (components.length - 1)).map fun n => Text.join ['/'] (components.take (n + 1))

def excludedBy (setting path : List Char) : Except Failure Bool := do
  if isBareName setting then return (Text.pieces '/' path).contains setting
  return (← alternatives setting).any fun glob => covers glob path || (ancestors path).any (covers glob)

/-- Whether one of the settings excludes a path. Those after the first that does are not expanded. -/
def excludes (settings : List (List Char)) (path : List Char) : Except Failure Bool := settings.anyM (excludedBy · path)

/-! Finding files by globs. A directory that is excluded is not entered. -/

def spares (settings : List (List Char)) (path : List Char) : Except Failure Bool :=
  return !(← excludes settings path)

def keeps (included excluded : List (List Char)) (path : List Char) : Except Failure Bool :=
  if included.any (covers · path) then spares excluded path else return false

def select (included excluded : List (List Char)) (entries : List (String × FileTree)) :
    Except Failure (List String) := do
  let found ← FileTree.searchEntries (spares excluded) (keeps included excluded) FileTree.walkLimit [] entries
  return sortStrings (Text.distinct (found.map String.ofList))

end EnvAudit.Glob
