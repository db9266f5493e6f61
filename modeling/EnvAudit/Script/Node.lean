import EnvAudit.Text.Utf8

/-! Syntax trees of scripts. A node is a token with its text or has parts, and every token of the source, comments
included, is a leaf of the tree; only blanks are left out. -/
namespace EnvAudit.Script

structure Place where
  offset : Nat
  row : Nat
  column : Nat
deriving Repr, DecidableEq, Inhabited

def Place.after (place : Place) (c : Char) : Place :=
  if c == '\n' then ⟨place.offset + 1, place.row + 1, 0⟩
  else ⟨place.offset + Text.byteWidth c, place.row, place.column + Text.byteWidth c⟩

/-- What a node is. Marks are the tokens that only hold other parts together; a construct is any other part whose
kind does not matter. -/
inductive Kind
  | mark
  | comment
  | identifier
  | propertyName
  | privateName
  | keyword
  | number
  | regex
  | string
  | fragment
  | escape
  | template
  | substitution
  | markupText
  | member
  | subscript
  | call
  | arguments
  | parenthesized
  | nonNull
  | asserted
  | satisfied
  | binary
  | metaProperty
  | object
  | array
  | declarator
  | objectPattern
  | arrayPattern
  | pairPattern
  | assignmentPattern
  | shorthandName
  | restPattern
  | construct
deriving Repr, DecidableEq, Inhabited

inductive Role
  | object
  | property
  | index
  | function
  | arguments
  | left
  | operator
  | right
  | name
  | value
  | key
deriving Repr, DecidableEq

inductive Node
  | mk (kind : Kind) (role : Option Role) (start stop : Place) (text : List Char) (parts : List Node)
deriving Repr, Inhabited

namespace Node

mutual

def decEq : (node other : Node) → Decidable (node = other)
  | mk kind role start stop text parts, mk kind' role' start' stop' text' parts' =>
    letI := decEqAll parts parts'
    decidable_of_iff (kind = kind' ∧ role = role' ∧ start = start' ∧ stop = stop' ∧ text = text' ∧ parts = parts')
      (mk.injEq ..).symm.to_iff

def decEqAll : (nodes others : List Node) → Decidable (nodes = others)
  | [], [] => isTrue rfl
  | [], _ :: _ => isFalse nofun
  | _ :: _, [] => isFalse nofun
  | node :: rest, other :: others =>
    letI := decEq node other
    letI := decEqAll rest others
    decidable_of_iff (node = other ∧ rest = others) (List.cons.injEq ..).symm.to_iff

end

instance : DecidableEq Node := decEq

def kind : Node → Kind
  | mk kind _ _ _ _ _ => kind

def role : Node → Option Role
  | mk _ role _ _ _ _ => role

def start : Node → Place
  | mk _ _ start _ _ _ => start

def stop : Node → Place
  | mk _ _ _ stop _ _ => stop

def text : Node → List Char
  | mk _ _ _ _ text _ => text

def parts : Node → List Node
  | mk _ _ _ _ _ parts => parts

def withRole (role : Role) : Node → Node
  | mk kind _ start stop text parts => mk kind (some role) start stop text parts

def isNamed (node : Node) : Bool := node.kind != .mark

def namedParts (node : Node) : List Node := node.parts.filter isNamed

def part? (role : Role) (node : Node) : Option Node := node.parts.find? (·.role == some role)

def ofParts (kind : Kind) (first : Node) (others : List Node) : Node :=
  mk kind none first.start ((others.getLast?.getD first).stop) [] (first :: others)

mutual

def tokens : Node → List Char
  | mk _ _ _ _ text parts => text ++ tokensOf parts

def tokensOf : List Node → List Char
  | [] => []
  | part :: rest => tokens part ++ tokensOf rest

end

mutual

def count : Node → Nat
  | mk _ _ _ _ _ parts => countOf parts + 1

def countOf : List Node → Nat
  | [] => 0
  | part :: rest => count part + countOf rest

end

mutual

def preorder : Node → List Node
  | mk kind role start stop text parts =>
    (if (mk kind role start stop text parts).isNamed then [mk kind role start stop text parts] else [])
      ++ preorderOf parts

def preorderOf : List Node → List Node
  | [] => []
  | part :: rest => preorder part ++ preorderOf rest

end

def encloses (outer inner : Node) : Bool :=
  outer.start.offset ≤ inner.start.offset && inner.stop.offset ≤ outer.stop.offset

end Node
end EnvAudit.Script
