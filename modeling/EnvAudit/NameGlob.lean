import EnvAudit.Text.Basic

/-! Name globs, for variable names. A star stands for any text, a question mark for one character, and brackets for
one character of a set; a bracket that is never closed stands for itself. Case matters. -/
namespace EnvAudit.NameGlob

inductive Member
  | char (c : Char)
  | range (first last : Char)
deriving Repr, DecidableEq

inductive Piece
  | any
  | one
  | set (negated : Bool) (members : List Member)
  | char (c : Char)
deriving Repr, DecidableEq

def Member.contains (c : Char) : Member → Bool
  | .char d => c == d
  | .range first last => first ≤ c && c ≤ last

/-- Cuts the content of a set at the hyphens that make ranges: a hyphen makes one when it is not the first
character of its part, and the character after it is not looked at again. `taken` is the reversed current part and
`skip` the number of characters in which no hyphen counts. -/
def cutRanges (taken : List Char) : Nat → List Char → List (List Char)
  | _, [] => [taken.reverse]
  | 0, '-' :: rest => taken.reverse :: cutRanges [] 2 rest
  | 0, c :: rest => cutRanges (c :: taken) 0 rest
  | n + 1, c :: rest => cutRanges (c :: taken) n rest

/-- A last part that is empty is a hyphen that belongs to the part before it. -/
def keepLastHyphen (parts : List (List Char)) : List (List Char) :=
  match parts.reverse with
  | [] :: before :: others => ((before ++ ['-']) :: others).reverse
  | _ => parts

/-- Joins neighbouring parts, from the right, whose range would be empty, without the ends of that range. -/
def dropEmptyRanges : List (List Char) → List (List Char)
  | [] => []
  | part :: rest =>
    match dropEmptyRanges rest with
    | [] => [part]
    | next :: others =>
      match part.getLast?, next.head? with
      | some a, some b => if b < a then (part.dropLast ++ next.drop 1) :: others else part :: next :: others
      | _, _ => part :: next :: others

/-- The members of a set whose parts are joined by ranges; the first character of a part after a range is its
end and no member by itself. -/
def membersOf (afterRange : Bool) : List (List Char) → List Member
  | [] => []
  | part :: rest =>
    let own := if afterRange then part.drop 1 else part
    match rest with
    | [] => own.map .char
    | next :: _ =>
      let joined := match part.getLast?, next.head? with
        | some a, some b => [Member.range a b]
        | _, _ => []
      own.dropLast.map .char ++ joined ++ membersOf true rest

def setPiece (content : List Char) : Piece :=
  let skip := if content.head? == some '!' then 2 else 1
  let parts := if content.contains '-' then dropEmptyRanges (keepLastHyphen (cutRanges [] skip content)) else [content]
  match parts with
  | ('!' :: first) :: others => .set true (membersOf false (first :: others))
  | _ => .set false (membersOf false parts)

/-- The content of a set and the rest after its closing bracket; a bracket right at the start of the content, also
after an exclamation mark, does not close it. -/
def setContent? (text : List Char) : Option (List Char × List Char) :=
  let lead := match text with
    | '!' :: ']' :: _ => 2
    | '!' :: _ => 1
    | ']' :: _ => 1
    | _ => 0
  let body := (text.drop lead).takeWhile (· != ']')
  match (text.drop lead).drop body.length with
  | _ :: rest => some (text.take lead ++ body, rest)
  | [] => none

def piecesWithin : Nat → List Char → List Piece
  | 0, _ => []
  | _, [] => []
  | bound + 1, '*' :: rest => .any :: piecesWithin bound rest
  | bound + 1, '?' :: rest => .one :: piecesWithin bound rest
  | bound + 1, '[' :: rest =>
    match setContent? rest with
    | some (content, after) => setPiece content :: piecesWithin bound after
    | none => .char '[' :: piecesWithin bound rest
  | bound + 1, c :: rest => .char c :: piecesWithin bound rest

def pieces (glob : List Char) : List Piece := piecesWithin glob.length glob

def dropSome (fits : List Char → Bool) : List Char → Bool
  | [] => fits []
  | c :: rest => fits (c :: rest) || dropSome fits rest

def Piece.fits (rest : List Char → Bool) : Piece → List Char → Bool
  | .any, name => dropSome rest name
  | .one, _ :: name => rest name
  | .one, [] => false
  | .set negated members, c :: name => members.any (·.contains c) != negated && rest name
  | .set _ _, [] => false
  | .char d, c :: name => c == d && rest name
  | .char _, [] => false

def fits : List Piece → List Char → Bool
  | [], name => name.isEmpty
  | piece :: rest, name => piece.fits (fits rest) name

def covers (glob name : String) : Bool := fits (pieces glob.toList) name.toList

end EnvAudit.NameGlob
