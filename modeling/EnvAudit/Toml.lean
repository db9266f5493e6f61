import EnvAudit.Toml.Reader

/-! TOML documents. A document is read statement by statement: entries go into the table that was opened last, and a
part that was declared or written as a whole cannot be changed later. -/
namespace EnvAudit.Toml
open Cursor

/-- What has been read of a document: its table, the key of the open table, the keys of lists and tables that were
written as values, of tables that were declared, and of tables that count as declared from the next header on. -/
structure Document where
  table : Table := []
  header : Key := []
  closed : List Key := []
  declared : List Key := []
  pending : List Key := []

namespace Document

def isClosed (d : Document) (key : Key) : Bool := Toml.isClosed d.closed key

def settle (d : Document) : Document := { d with declared := d.pending ++ d.declared, pending := [] }

def openTable (d : Document) (key : Key) (place : Cursor) : Except Refusal Document :=
  if d.declared.contains key || d.isClosed key then place.fail (.declaredTwice key)
  else
    match changeAt true some key d.table with
    | none => place.fail .overwritten
    | some table => .ok { d with table, header := key, declared := key :: d.declared }

def openItem (d : Document) (key : Key) (place : Cursor) : Except Refusal Document :=
  if d.isClosed key then place.fail (.closed key)
  else
    match changeAt true (appendTable (key.getLast?.getD "")) key.dropLast d.table with
    | none => place.fail .overwritten
    | some table =>
      let outside := fun (keys : List Key) => keys.filter (!key.isPrefixOf ·)
      .ok { d with table, header := key, declared := key :: outside d.declared, closed := outside d.closed }

def tablesOnTheWay (d : Document) (key : Key) : List Key :=
  (List.range (key.length - 1)).map fun n => d.header ++ key.take (n + 1)

def addEntry (d : Document) (key : Key) (value : Value) (place : Cursor) : Except Refusal Document :=
  let parent := d.header ++ key.dropLast
  match (d.tablesOnTheWay key).find? d.declared.contains with
  | some table => place.fail (.redefined table)
  | none =>
    if d.isClosed parent then place.fail (.closed parent)
    else
      match changeAt true (Toml.addEntry (key.getLast?.getD "") value) parent d.table with
      | none => place.fail .overwritten
      | some table =>
        .ok { d with
          table
          pending := d.tablesOnTheWay key ++ d.pending
          closed := if value.isContainer then (d.header ++ key) :: d.closed else d.closed }

end Document

def readHeader (d : Document) (place : Cursor) : Except Refusal (Document × Cursor) := do
  let isItem := place.startsWith "[["
  let (key, next) ← readKey (place.skip (if isItem then 2 else 1)).skipBlanks
  let d ← if isItem then d.settle.openItem key next else d.settle.openTable key next
  if !next.startsWith (if isItem then "]]" else "]") then
    return ← next.fail (if isItem then .noListEnd else .noTableEnd)
  return (d, next.skip (if isItem then 2 else 1))

def beginsKey (c : Char) : Bool := isPlainKeyChar c || c == '"' || c == '\''

def readStatement (d : Document) (place : Cursor) : Except Refusal (Document × Cursor) :=
  match place.rest with
  | [] => .ok (d, place)
  | c :: _ =>
    if c == '\n' || c == '#' then .ok (d, place)
    else if beginsKey c then do
      let ((key, value), next) ← readEntry place
      return (← d.addEntry key value next, next)
    else if c == '[' then readHeader d place
    else place.fail .noStatement

def readLinesFrom : Nat → Document → Cursor → Except Refusal Document
  | 0, d, _ => .ok d
  | bound + 1, d, place => do
    let (d, next) ← readStatement d place.skipBlanks
    let next ← next.skipBlanks.skipComment
    match next.rest with
    | [] => return d
    | '\n' :: _ => readLinesFrom bound d (next.skip 1)
    | _ => next.fail .noLineEnd

def read (text : List Char) : Except Refusal Table :=
  (readLinesFrom (text.length + 1) {} ⟨text, 0⟩).map (·.table)

end EnvAudit.Toml
