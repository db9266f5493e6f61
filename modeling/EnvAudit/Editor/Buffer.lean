import EnvAudit.Text.Basic

/-! Edits of a text buffer. A position names a line and a character of it, both from zero; a character beyond its
line stands for the line's end, and a line beyond the last for the end of the buffer. -/
namespace EnvAudit.Editor

structure Position where
  line : Nat
  character : Nat
deriving Repr, DecidableEq, Inhabited

structure Span where
  start : Position
  stop : Position
deriving Repr, DecidableEq, Inhabited

structure Change where
  text : List Char
  span : Option Span
deriving Repr, DecidableEq

def extent (lines : List (List Char)) : Nat := lines.foldl (fun total line => total + line.length + 1) 0

def offset (lines : List (List Char)) (position : Position) : Nat :=
  match lines[position.line]? with
  | some line => extent (lines.take position.line) + min position.character line.length
  | none => extent lines - 1

def applyChange (buffer : List Char) (change : Change) : List Char :=
  match change.span with
  | none => change.text
  | some span =>
    let lines := Text.lines buffer
    buffer.take (offset lines span.start) ++ change.text ++ buffer.drop (offset lines span.stop)

/-- The buffer after some changes, each made to what the one before left. -/
def applyChanges (buffer : List Char) (changes : List Change) : List Char := changes.foldl applyChange buffer

end EnvAudit.Editor
