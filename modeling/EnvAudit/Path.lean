import EnvAudit.Text.Basic

/-! File paths. A path is absolute or relative and names its components; empty components and single dots mean
nothing, while two dots keep their place until the path is resolved. -/
namespace EnvAudit

structure Path where
  root : String := ""
  components : List String
deriving Repr, DecidableEq, Inhabited

namespace Path

/-- The slashes that count at the start of a text: exactly two stay two, any other number is one. -/
def leadingRoot (text : List Char) : String :=
  match (text.takeWhile (· == '/')).length with
  | 0 => ""
  | 2 => "//"
  | _ => "/"

def ofString (text : String) : Path :=
  ⟨leadingRoot text.toList, (piecesOf '/' text).filter fun c => c != "" && c != "."⟩

def isAbsolute (p : Path) : Bool := p.root != ""

/-- The text of a path; a relative path without components is a dot. -/
def text (p : Path) : String :=
  if !p.isAbsolute && p.components.isEmpty then "." else p.root ++ joinWith "/" p.components

def join (directory p : Path) : Path :=
  if p.isAbsolute then p else ⟨directory.root, directory.components ++ p.components⟩

def child (directory : Path) (name : String) : Path := directory.join (ofString name)

def name (p : Path) : String := p.components.getLast?.getD ""

def parent (p : Path) : Path := { p with components := p.components.dropLast }

def withParents (p : Path) : List Path :=
  (List.range (p.components.length + 1)).map fun n =>
    { p with components := p.components.take (p.components.length - n) }

def step (above : List String) (component : String) : List String :=
  if component == ".." then above.dropLast else above ++ [component]

def resolve (working p : Path) : Path :=
  let whole := working.join p
  { whole with components := whole.components.foldl step [] }

def suffix (p : Path) : String :=
  let reversed := p.name.toList.reverse
  let ending := reversed.takeWhile (· != '.')
  match reversed.drop ending.length with
  | _ :: before => if before.isEmpty || ending.isEmpty then "" else String.ofList ('.' :: ending.reverse)
  | [] => ""

def relativeTo? (directory p : Path) : Option Path :=
  if p.root == directory.root && directory.components.isPrefixOf p.components then
    some ⟨"", p.components.drop directory.components.length⟩
  else none

end Path
end EnvAudit
