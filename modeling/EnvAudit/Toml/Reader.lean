import EnvAudit.Toml.Scalar

/-! Keys and values of TOML documents. -/
namespace EnvAudit.Toml
open Cursor

def isPlainKeyChar (c : Char) : Bool := Text.isLatin c || Text.isArabic c || c == '-' || c == '_'

def readName (place : Cursor) : Except Refusal (String × Cursor) :=
  match place.rest with
  | '\'' :: _ => (readLiteralLine place).map fun (text, next) => (String.ofList text, next)
  | '"' :: _ => (readBasicLine place).map fun (text, next) => (String.ofList text, next)
  | text =>
    match text.takeWhile isPlainKeyChar with
    | [] => place.fail .noKey
    | name => .ok (String.ofList name, place.skip name.length)

def readNames (read : Key) : Nat → Cursor → Except Refusal (Key × Cursor)
  | 0, place => .ok (read, place)
  | bound + 1, place =>
    let place := place.skipBlanks
    if place.startsWith "." then do
      let (name, next) ← readName (place.skip 1).skipBlanks
      readNames (read ++ [name]) bound next
    else .ok (read, place)

def readKey (place : Cursor) : Except Refusal (Key × Cursor) := do
  let (name, next) ← readName place
  readNames [name] next.rest.length next

def skipBetween : Nat → Cursor → Except Refusal Cursor
  | 0, place => .ok place
  | bound + 1, place => do
    let next ← (place.skipWhile isBlankOrLineFeed).skipComment
    if next.offset == place.offset then return next else skipBetween bound next

def skipBetweenItems (place : Cursor) : Except Refusal Cursor := skipBetween (place.rest.length + 1) place

def nestingLimit : Nat := 490

structure Inline where
  table : Table := []
  closed : List Key := []

def isClosed (closed : List Key) (key : Key) : Bool := closed.any (·.isPrefixOf key)

def Value.isContainer : Value → Bool
  | .list _ => true
  | .table _ => true
  | _ => false

def Inline.add (inline : Inline) (key : Key) (value : Value) (place : Cursor) : Except Refusal Table :=
  let stem := key.getLast?.getD ""
  if isClosed inline.closed key then place.fail (.closed key)
  else
    match changeAt false some key.dropLast inline.table with
    | none => place.fail .overwritten
    | some table =>
      match changeAt false (addEntry stem value) key.dropLast table with
      | none => place.fail (.duplicate stem)
      | some table => .ok table

def readNumber (place : Cursor) : Except Refusal (Value × Cursor) :=
  match basedInteger? place.rest, numeral? place.rest, namedNumber? place.rest with
  | some (value, length), _, _ => .ok (.int value, place.skip length)
  | none, some (numeral, length), _ => do return (← numeral.value, place.skip length)
  | none, none, some (value, length) => .ok (.real value, place.skip length)
  | none, none, none => place.fail .noValue

def readScalar (place : Cursor) : Except Refusal (Value × Cursor) :=
  if place.startsWith "\"" || place.startsWith "'" then
    (readString place).map fun (text, next) => (.text (String.ofList text), next)
  else if place.startsWith "true" then .ok (.bool true, place.skip 4)
  else if place.startsWith "false" then .ok (.bool false, place.skip 5)
  else (readMoment? place).getD (readNumber place)

mutual

def readValue (depth : Nat) : Nat → Cursor → Except Refusal (Value × Cursor)
  | 0, place => place.fail .noValue
  | bound + 1, place =>
    match place.rest.head?, depth with
    | some '[', 0 => .error .tooDeep
    | some '\x7b', 0 => .error .tooDeep
    | some '[', depth + 1 => do
      let next ← skipBetweenItems (place.skip 1)
      if next.startsWith "]" then return (.list [], next.skip 1)
      readItems depth [] bound next
    | some '\x7b', depth + 1 =>
      let next := (place.skip 1).skipBlanks
      if next.startsWith "\x7d" then .ok (.table [], next.skip 1) else readEntries depth {} bound next
    | _, _ => readScalar place

def readItems (depth : Nat) (read : List Value) : Nat → Cursor → Except Refusal (Value × Cursor)
  | 0, place => place.fail .openList
  | bound + 1, place => do
    let (item, next) ← readValue depth bound place
    let next ← skipBetweenItems next
    if next.startsWith "]" then return (.list (item :: read).reverse, next.skip 1)
    if !next.startsWith "," then return ← next.fail .openList
    let next ← skipBetweenItems (next.skip 1)
    if next.startsWith "]" then return (.list (item :: read).reverse, next.skip 1)
    readItems depth (item :: read) bound next

def readEntries (depth : Nat) (inline : Inline) : Nat → Cursor → Except Refusal (Value × Cursor)
  | 0, place => place.fail .openInlineTable
  | bound + 1, place => do
    let (key, next) ← readKey place
    if !next.startsWith "=" then return ← next.fail .noEquals
    let (value, next) ← readValue depth bound (next.skip 1).skipBlanks
    let table ← inline.add key value next
    let next := next.skipBlanks
    if next.startsWith "\x7d" then return (.table table, next.skip 1)
    if !next.startsWith "," then return ← next.fail .openInlineTable
    let closed := if value.isContainer then key :: inline.closed else inline.closed
    readEntries depth ⟨table, closed⟩ bound (next.skip 1).skipBlanks

end

def readEntry (place : Cursor) : Except Refusal ((Key × Value) × Cursor) := do
  let (key, next) ← readKey place
  if !next.startsWith "=" then return ← next.fail .noEquals
  let start := (next.skip 1).skipBlanks
  let (value, next) ← readValue nestingLimit (2 * start.rest.length + 2) start
  return ((key, value), next)

end EnvAudit.Toml
