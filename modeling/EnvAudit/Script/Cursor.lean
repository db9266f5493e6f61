import EnvAudit.Script.Node

/-! A cursor stands on a node of a tree and remembers the way to it. It moves to the first part, to the next part of
the same node, or back; `walk` moves it through the whole tree and stops at every named node once, before its parts. -/
namespace EnvAudit.Script

structure Turn where
  parent : Node
  before : List Node
  after : List Node
deriving Repr

structure Cursor where
  node : Node
  way : List Turn
deriving Repr

namespace Cursor

def ofRoot (root : Node) : Cursor := ⟨root, []⟩

def firstPart? (c : Cursor) : Option Cursor :=
  match c.node.parts with
  | [] => none
  | part :: rest => some ⟨part, ⟨c.node, [], rest⟩ :: c.way⟩

def nextPart? (c : Cursor) : Option Cursor :=
  match c.way with
  | ⟨parent, before, next :: rest⟩ :: way => some ⟨next, ⟨parent, c.node :: before, rest⟩ :: way⟩
  | _ => none

def parent? (c : Cursor) : Option Cursor :=
  match c.way with
  | [] => none
  | turn :: way => some ⟨turn.parent, way⟩

def ancestors (c : Cursor) : List Node := c.way.map (·.parent)

def leave (c : Cursor) : Option (Cursor × Bool) :=
  match c.nextPart? with
  | some next => some (next, false)
  | none => c.parent?.map (·, true)

def move (c : Cursor) (done : Bool) : Option (Cursor × Bool) :=
  match done, c.firstPart? with
  | false, some part => some (part, false)
  | _, _ => c.leave

def walkFor : Nat → Cursor → Bool → List Cursor
  | 0, _, _ => []
  | moves + 1, c, done =>
    (if !done && c.node.isNamed then [c] else [])
      ++ match c.move done with
        | some (next, done) => walkFor moves next done
        | none => []

/-- All named nodes of a tree, each at the end of its way; every node is met at most twice. -/
def walk (root : Node) : List Cursor := walkFor (2 * root.count) (ofRoot root) false

end Cursor
end EnvAudit.Script
