/-! Plain text as a list of characters: cutting at separators, searching, and joining. A text is always cut
into at least one piece, and joining the pieces with the separator gives the text back. -/
namespace EnvAudit.Text

/-- The pieces between the occurrences of a separator; an empty text is one empty piece. -/
def pieces (sep : Char) : List Char → List (List Char)
  | [] => [[]]
  | c :: rest =>
    if c = sep then [] :: pieces sep rest
    else
      match pieces sep rest with
      | [] => [[c]]
      | first :: others => (c :: first) :: others

def lines (text : List Char) : List (List Char) := pieces '\n' text

def join (sep : List Char) : List (List Char) → List Char
  | [] => []
  | [last] => last
  | first :: second :: others => first ++ sep ++ join sep (second :: others)

theorem pieces_ne_nil (sep : Char) (text : List Char) : pieces sep text ≠ [] := by
  cases text with
  | nil => simp [pieces]
  | cons c rest =>
    rw [pieces]
    split
    · simp
    · split <;> simp

theorem join_pieces (sep : Char) (text : List Char) : join [sep] (pieces sep text) = text := by
  induction text with
  | nil => rfl
  | cons c rest ih =>
    have inhabited := pieces_ne_nil sep rest
    rw [pieces]
    split
    · next same =>
      cases found : pieces sep rest with
      | nil => exact absurd found inhabited
      | cons first others => rw [found] at ih; simp [join, ih, same]
    · cases found : pieces sep rest with
      | nil => exact absurd found inhabited
      | cons first others =>
        rw [found] at ih
        cases others with
        | nil => simpa [join] using ih
        | cons second others => simpa [join] using ih

def cut? (sep : Char) : List Char → Option (List Char × List Char)
  | [] => none
  | c :: rest => if c = sep then some ([], rest) else (cut? sep rest).map fun (before, after) => (c :: before, after)

def find? (needle : List Char) : List Char → Option Nat
  | [] => if needle.isEmpty then some 0 else none
  | c :: rest => if needle.isPrefixOf (c :: rest) then some 0 else (find? needle rest).map (· + 1)

def dropStart? : List Char → List Char → Option (List Char)
  | [], text => some text
  | _ :: _, [] => none
  | b :: beginning, c :: rest => if b = c then dropStart? beginning rest else none

def dropEnding (ending text : List Char) : List Char :=
  match dropStart? ending.reverse text.reverse with
  | some rest => rest.reverse
  | none => text

def dropEndWhile (among : Char → Bool) (text : List Char) : List Char :=
  (text.reverse.dropWhile among).reverse

def takeEnd (n : Nat) (text : List Char) : List Char := text.drop (text.length - n)

def padEnd (width : Nat) (text : List Char) : List Char :=
  text ++ List.replicate (width - text.length) ' '

def padZeros (width : Nat) (text : List Char) : List Char :=
  List.replicate (width - text.length) '0' ++ text

def normalizeNewlines : List Char → List Char
  | [] => []
  | '\r' :: '\n' :: rest => '\n' :: normalizeNewlines rest
  | '\r' :: rest => '\n' :: normalizeNewlines rest
  | c :: rest => c :: normalizeNewlines rest

def distinct {α : Type} [BEq α] (items : List α) : List α :=
  items.foldl (fun kept item => if kept.contains item then kept else kept ++ [item]) []

end EnvAudit.Text

namespace EnvAudit

def linesOf (s : String) : List String := (Text.lines s.toList).map String.ofList

def piecesOf (sep : Char) (s : String) : List String := (Text.pieces sep s.toList).map String.ofList

def joinWith (sep : String) (parts : List String) : String :=
  String.ofList (Text.join sep.toList (parts.map String.toList))

def beginsWith (s beginning : String) : Bool := beginning.toList.isPrefixOf s.toList

def sortStrings (items : List String) : List String := items.mergeSort (fun a b => decide (a ≤ b))

end EnvAudit
