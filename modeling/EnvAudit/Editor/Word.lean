import EnvAudit.Text.Letter

/-! The word at the cursor. The cursor stands between two characters of a line, and the word is the longest run of
word characters around it. A negative position counts from the end of the line, and reading on from there goes over
the end of the line to its start. -/
namespace EnvAudit.Editor

structure Word where
  text : List Char
  start : Int
  stop : Int
deriving Repr, DecidableEq

def wordBefore (line : List Char) (position : Nat) : Nat :=
  ((line.take position).reverse.takeWhile Text.isWordChar).length

def wordAfter (line : List Char) (position : Nat) : Nat := ((line.drop position).takeWhile Text.isWordChar).length

def wordAt? (line : List Char) (position : Nat) : Option Word :=
  if line.length < position then none
  else
    let start := position - wordBefore line position
    let stop := position + wordAfter line position
    if start == stop then none else some ⟨(line.take stop).drop start, start, stop⟩

def placeIn (line : List Char) (position : Int) : Nat :=
  if position < 0 then (line.length + position).toNat else position.toNat

/-- The word at a position counted from the end, unless that lies before the line. -/
def wordFromEnd? (line : List Char) (back : Nat) : Option (Option Word) :=
  if line.length < back then none
  else
    let ahead := line.drop (line.length - back) ++ line
    let count := (ahead.takeWhile Text.isWordChar).length
    let start : Int := -back
    let stop : Int := start + count
    if count == 0 then some none
    else some (some ⟨(line.take (placeIn line stop)).drop (placeIn line start), start, stop⟩)

end EnvAudit.Editor
