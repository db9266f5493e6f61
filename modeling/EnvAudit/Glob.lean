import EnvAudit.Text.Basic

/-! Path globs. A glob is read from left to right as pieces, always the longest possible one, and matches a path
when the path can be cut into consecutive parts, one for every piece. -/
namespace EnvAudit.Glob

/-- One piece of a glob: `**/` stands for directories or nothing, `**` for any text within a line, `*` for any text
within a path component, `?` for one character of a component, any other character for itself. -/
inductive Piece
  | directories
  | deep
  | component
  | one
  | char (c : Char)
deriving Repr, DecidableEq

def pieces : List Char → List Piece
  | '*' :: '*' :: '/' :: rest => .directories :: pieces rest
  | '*' :: '*' :: rest => .deep :: pieces rest
  | '*' :: rest => .component :: pieces rest
  | '?' :: rest => .one :: pieces rest
  | c :: rest => .char c :: pieces rest
  | [] => []

def takeSome (among : Char → Bool) (fits : List Char → Bool) : List Char → Bool
  | [] => fits []
  | c :: rest => fits (c :: rest) || (among c && takeSome among fits rest)

def takeDirectories (fits : List Char → Bool) : List Char → Bool
  | [] => false
  | c :: rest => (c == '/' && fits rest) || (c != '\n' && takeDirectories fits rest)

/-- Whether a text starts with a part for the piece after which the rest fits. -/
def Piece.fits (rest : List Char → Bool) : Piece → List Char → Bool
  | .directories, text => rest text || takeDirectories rest text
  | .deep, text => takeSome (· != '\n') rest text
  | .component, text => takeSome (· != '/') rest text
  | .one, c :: text => c != '/' && rest text
  | .one, [] => false
  | .char d, c :: text => c == d && rest text
  | .char _, [] => false

def fits : List Piece → List Char → Bool
  | [], text => text.isEmpty
  | piece :: rest, text => piece.fits (fits rest) text

def covers (glob path : List Char) : Bool := fits (pieces glob) path

end EnvAudit.Glob
