import EnvAudit.Script.Node

/-! Reading a source from left to right. Blanks and comments before the next token are taken in advance; the comments
wait for the token and stand before it among the parts of a node. -/
namespace EnvAudit.Script

/-- What is left to read: the rest of the source from the next token on, its number of characters and its place,
the comments before it, and whether a line begins before it. -/
structure Reading where
  rest : List Char
  left : Nat
  place : Place
  comments : List Node
  freshLine : Bool
deriving Repr

abbrev Parser := StateT Reading Option

abbrev Grammar := Parser (List Node)

def isSpace (c : Char) : Bool :=
  c == ' ' || (0x09 ≤ c.toNat && c.toNat ≤ 0x0d) || c.toNat == 0x85 || c.toNat == 0xa0 || c.toNat == 0x1680
    || (0x2000 ≤ c.toNat && c.toNat ≤ 0x200b) || c.toNat == 0x2028 || c.toNat == 0x2029 || c.toNat == 0x202f
    || c.toNat == 0x205f || c.toNat == 0x2060 || c.toNat == 0x3000 || c.toNat == 0xfeff

def endsLine (c : Char) : Bool := c == '\n' || c == '\r' || c.toNat == 0x2028 || c.toNat == 0x2029

inductive Trivia
  | blank
  | line (start : Place) (read : List Char)
  | block (start : Place) (read : List Char)

structure Margin where
  left : Nat
  place : Place
  comments : List Node
  freshLine : Bool

def commentNode (start stop : Place) (read : List Char) : Node := .mk .comment none start stop read.reverse []

def skip (margin : Margin) : Trivia → List Char → Option Reading
  | .blank, [] => some ⟨[], margin.left, margin.place, margin.comments.reverse, margin.freshLine⟩
  | .line start read, [] =>
    some ⟨[], margin.left, margin.place, (commentNode start margin.place read :: margin.comments).reverse,
      margin.freshLine⟩
  | .block _ _, [] => none
  | .blank, c :: rest =>
    let next := { margin with left := margin.left - 1, place := margin.place.after c }
    if isSpace c then skip { next with freshLine := next.freshLine || c == '\n' } .blank rest
    else
      match c, rest with
      | '/', '/' :: _ => skip next (.line margin.place [c]) rest
      | '/', '*' :: _ => skip next (.block margin.place [c]) rest
      | _, _ => some ⟨c :: rest, margin.left, margin.place, margin.comments.reverse, margin.freshLine⟩
  | .line start read, c :: rest =>
    let next := { margin with left := margin.left - 1, place := margin.place.after c }
    if endsLine c then
      skip
        { next with
          comments := commentNode start margin.place read :: margin.comments
          freshLine := next.freshLine || c == '\n' }
        .blank rest
    else skip next (.line start (c :: read)) rest
  | .block start read, c :: rest =>
    let next := { margin with left := margin.left - 1, place := margin.place.after c }
    if c == '/' && read.head? == some '*' && 2 < read.length then
      skip { next with comments := commentNode start next.place (c :: read) :: margin.comments } .blank rest
    else skip { next with freshLine := next.freshLine || c == '\n' } (.block start (c :: read)) rest

/-- The reading of a whole source, which must not hold the null character. -/
def Reading.ofSource (source : List Char) : Option Reading :=
  if source.contains '\x00' then none else skip ⟨source.length, ⟨0, 0, 0⟩, [], false⟩ .blank source

def advance : Nat → List Char → Place → List Char × Place
  | 0, rest, place => (rest, place)
  | _, [], place => ([], place)
  | n + 1, c :: rest, place => advance n rest (place.after c)

namespace Parser

def fail {α : Type} : Parser α := fun _ => none

def require (condition : Bool) : Parser Unit := if condition then pure () else fail

def orElse {α : Type} (first second : Parser α) : Parser α := fun r =>
  match first r with
  | some found => some found
  | none => second r

def attempt {α : Type} (parser : Parser α) : Parser (Option α) := fun r =>
  match parser r with
  | some (found, next) => some (some found, next)
  | none => some (none, r)

def possibly (parser : Grammar) : Grammar := do return (← attempt parser).getD []

def given (condition : Parser Bool) (parser : Grammar) : Grammar := do if ← condition then parser else return []

def rest : Parser (List Char) := return (← get).rest

def takeRaw (kind : Kind) (length : Nat) : Grammar := fun r =>
  let (rest, stop) := advance length r.rest r.place
  some (r.comments ++ [.mk kind none r.place stop (r.rest.take length) []],
    ⟨rest, r.left - length, stop, [], false⟩)

def settle : Parser Unit := fun r =>
  (skip ⟨r.left, r.place, r.comments.reverse, r.freshLine⟩ .blank r.rest).map fun next => ((), next)

def take (kind : Kind) (length : Nat) : Grammar := do
  let token ← takeRaw kind length
  settle
  return token

def repeatUntil (stop : Reading → Bool) (item : Grammar) : Nat → List (List Node) → Grammar
  | 0, _, _ => none
  | bound + 1, done, r =>
    if stop r then some (done.reverse.flatten, r)
    else
      match item r with
      | none => none
      | some (nodes, next) => if r.left ≤ next.left then none else repeatUntil stop item bound (nodes :: done) next

def manyUntil (stop : Reading → Bool) (item : Grammar) : Grammar := fun r =>
  repeatUntil stop item (r.left + 1) [] r

def repeatWhile (item : List Node → Parser (Option (List Node))) : Nat → List Node → Grammar
  | 0, done, r => some (done, r)
  | bound + 1, done, r =>
    match item done r with
    | none => none
    | some (none, _) => some (done, r)
    | some (some nodes, next) => repeatWhile item bound nodes next

def growing (item : List Node → Parser (Option (List Node))) (start : List Node) : Grammar := fun r =>
  repeatWhile item (r.left + 1) start r

end Parser

/-- Makes one node of some parts; comments before its first token stay outside. -/
def wrap (kind : Kind) (parts : List Node) : List Node :=
  let comments := parts.takeWhile (·.kind == .comment)
  match parts.drop comments.length with
  | [] => comments
  | first :: others => comments ++ [Node.ofParts kind first others]

def playing (role : Role) (nodes : List Node) : List Node :=
  match nodes.getLast? with
  | some node => nodes.dropLast ++ [node.withRole role]
  | none => []

def kindOf (nodes : List Node) : Option Kind := nodes.getLast?.map Node.kind

end EnvAudit.Script
