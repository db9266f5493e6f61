import EnvAudit.Script.Cursor

/-! The walk of a cursor through a tree. It meets every named node once, before its parts and the parts in their order,
each at the end of the way from the root to it. -/
namespace EnvAudit.Script.Cursor

mutual

def visits : Node → List Turn → List Cursor
  | .mk kind role start stop text parts, way =>
    (if (Node.mk kind role start stop text parts).isNamed then [⟨.mk kind role start stop text parts, way⟩] else [])
      ++ visitsOf (.mk kind role start stop text parts) way [] parts

def visitsOf (parent : Node) (way : List Turn) : List Node → List Node → List Cursor
  | _, [] => []
  | before, part :: after =>
    visits part (⟨parent, before, after⟩ :: way) ++ visitsOf parent way (part :: before) after

end

mutual

def moves : Node → Nat
  | .mk _ _ _ _ _ [] => 1
  | .mk _ _ _ _ _ (part :: rest) => movesOf (part :: rest) + 2

def movesOf : List Node → Nat
  | [] => 0
  | part :: rest => moves part + movesOf rest

end

mutual

theorem moves_le : ∀ node : Node, moves node ≤ 2 * node.count
  | .mk _ _ _ _ _ [] => by simp [moves, Node.count, Node.countOf]
  | .mk _ _ _ _ _ (part :: rest) => by
    have := movesOf_le (part :: rest)
    rw [moves, Node.count]
    omega

theorem movesOf_le : ∀ nodes : List Node, movesOf nodes ≤ 2 * Node.countOf nodes
  | [] => Nat.zero_le _
  | part :: rest => by
    have := moves_le part
    have := movesOf_le rest
    rw [movesOf, Node.countOf]
    omega

end

def resume (moves : Nat) (c : Cursor) : List Cursor :=
  match c.leave with
  | some (next, done) => walkFor moves next done
  | none => []

theorem walkFor_done (moves : Nat) (c : Cursor) : walkFor (moves + 1) c true = resume moves c := by
  rw [walkFor, move]
  · rfl
  · nofun

mutual

theorem walkFor_node : ∀ (node : Node) (way : List Turn) (more : Nat),
    walkFor (moves node + more) ⟨node, way⟩ false = visits node way ++ resume more ⟨node, way⟩
  | .mk kind role start stop text [], way, more => by
    rw [moves, Nat.add_comm, walkFor, visits, visitsOf, List.append_nil]
    rfl
  | .mk kind role start stop text (part :: rest), way, more => by
    have through := walkFor_parts (part :: rest) (.mk kind role start stop text (part :: rest)) way [] (more + 1)
    rw [walkFor_done] at through
    rw [moves, show movesOf (part :: rest) + 2 + more = movesOf (part :: rest) + (more + 1) + 1 by omega, walkFor,
      visits, List.append_assoc, ← through]
    rfl

theorem walkFor_parts : ∀ (nodes : List Node) (parent : Node) (way : List Turn) (before : List Node) (more : Nat),
    (match nodes with
      | [] => walkFor more ⟨parent, way⟩ true
      | part :: after => walkFor (movesOf nodes + more) ⟨part, ⟨parent, before, after⟩ :: way⟩ false) =
      visitsOf parent way before nodes ++ walkFor more ⟨parent, way⟩ true
  | [], parent, way, before, more => rfl
  | [part], parent, way, before, more => by
    have first := walkFor_node part (⟨parent, before, []⟩ :: way) more
    simpa [movesOf, visitsOf, resume, leave, nextPart?, parent?] using first
  | part :: next :: after, parent, way, before, more => by
    have first := walkFor_node part (⟨parent, before, next :: after⟩ :: way) (movesOf (next :: after) + more)
    have others := walkFor_parts (next :: after) parent way (part :: before) more
    rw [visitsOf, List.append_assoc, ← others]
    dsimp only
    rw [movesOf, Nat.add_assoc, first]
    rfl

end

theorem walk_eq_visits (root : Node) : walk root = visits root [] := by
  obtain ⟨more, enough⟩ := Nat.exists_eq_add_of_le (moves_le root)
  rw [walk, enough, ofRoot, walkFor_node]
  exact List.append_nil _

/-! Which nodes the cursor meets on its walk through a tree. It only moves to parts and back to where it came from, so
what holds of the root and of the parts of every node holds of all nodes that it meets. -/

variable {holds : Node → Prop} {c next : Cursor} {done : Bool}

structure Knows (holds : Node → Prop) (c : Cursor) : Prop where
  node : holds c.node
  around : ∀ turn ∈ c.way, holds turn.parent
  behind : ∀ turn ∈ c.way, ∀ node ∈ turn.after, holds node

theorem Knows.firstPart? (knows : Knows holds c) (parts : ∀ part ∈ c.node.parts, holds part)
    (moved : c.firstPart? = some next) : Knows holds next := by
  unfold Cursor.firstPart? at moved
  split at moved
  · cases moved
  · next part rest found =>
    cases moved
    rw [found] at parts
    obtain ⟨first, others⟩ := List.forall_mem_cons.mp parts
    exact ⟨first, List.forall_mem_cons.mpr ⟨knows.node, knows.around⟩, List.forall_mem_cons.mpr ⟨others, knows.behind⟩⟩

theorem Knows.nextPart? (knows : Knows holds c) (moved : c.nextPart? = some next) : Knows holds next := by
  obtain ⟨node, way⟩ := c
  obtain ⟨_, around, behind⟩ := knows
  unfold Cursor.nextPart? at moved
  split at moved
  · next parent before part rest outer found =>
    cases moved
    cases found
    obtain ⟨here, around⟩ := List.forall_mem_cons.mp around
    obtain ⟨after, behind⟩ := List.forall_mem_cons.mp behind
    obtain ⟨first, others⟩ := List.forall_mem_cons.mp after
    exact ⟨first, List.forall_mem_cons.mpr ⟨here, around⟩, List.forall_mem_cons.mpr ⟨others, behind⟩⟩
  · cases moved

theorem Knows.parent? (knows : Knows holds c) (moved : c.parent? = some next) : Knows holds next := by
  obtain ⟨node, way⟩ := c
  obtain ⟨_, around, behind⟩ := knows
  cases way with
  | nil => cases moved
  | cons turn way =>
    cases moved
    exact ⟨around turn List.mem_cons_self, fun turn member => around turn (List.mem_cons_of_mem _ member),
      fun turn member => behind turn (List.mem_cons_of_mem _ member)⟩

theorem Knows.leave {after : Bool} (knows : Knows holds c) (moved : c.leave = some (next, after)) :
    Knows holds next := by
  unfold Cursor.leave at moved
  split at moved
  · next found =>
    cases moved
    exact knows.nextPart? found
  · obtain ⟨parent, found, same⟩ := Option.map_eq_some_iff.mp moved
    cases same
    exact knows.parent? found

theorem Knows.move {after : Bool} (knows : Knows holds c)
    (parts : ∀ node part, holds node → part ∈ node.parts → holds part) (moved : c.move done = some (next, after)) :
    Knows holds next := by
  unfold Cursor.move at moved
  split at moved
  · next found =>
    cases moved
    exact knows.firstPart? (fun part => parts c.node part knows.node) found
  · exact knows.leave moved

theorem Knows.walkFor {moves : Nat} (knows : Knows holds c)
    (parts : ∀ node part, holds node → part ∈ node.parts → holds part) {met : Cursor}
    (member : met ∈ walkFor moves c done) : holds met.node := by
  induction moves generalizing c done with
  | zero => cases member
  | succ moves ih =>
    rw [Cursor.walkFor] at member
    rcases List.mem_append.mp member with here | later
    · split at here
      · rw [List.mem_singleton.mp here]
        exact knows.node
      · cases here
    · split at later
      · next moved => exact ih (knows.move parts moved) later
      · cases later

theorem walk_induction (holds : Node → Prop) {root : Node} (base : holds root)
    (parts : ∀ node part, holds node → part ∈ node.parts → holds part) {met : Cursor} (member : met ∈ walk root) :
    holds met.node :=
  have start : Knows holds (ofRoot root) := ⟨base, List.forall_mem_nil _, List.forall_mem_nil _⟩
  start.walkFor parts member

end EnvAudit.Script.Cursor

/-! The walk through a tree as a loop that stops by itself. Every move takes the cursor one step nearer to the end, also
a move back, and what it still has to meet is what it meets now and what it has to meet after the move. So the loop
meets the named nodes of the tree in the order of their paths from the root, which is the order of a node before its
parts. -/
namespace EnvAudit.Script

/-- The node at the end of a path, which gives at every step the number of the next part. -/
def Node.at? : Node → List Nat → Option Node
  | node, [] => some node
  | node, i :: path => (node.parts[i]?).bind (·.at? path)

namespace Cursor

def path (c : Cursor) : List Nat := (c.way.map (·.before.length)).reverse

def met (c : Cursor) (done : Bool) : List Cursor := if !done && c.node.isNamed then [c] else []

inductive Runs : Cursor → Bool → List Cursor → Prop
  | stop {c : Cursor} {done : Bool} (ends : c.move done = none) : Runs c done (c.met done)
  | go {c next : Cursor} {done after : Bool} {later : List Cursor} (moved : c.move done = some (next, after))
      (goes : Runs next after later) : Runs c done (c.met done ++ later)

theorem Runs.unique {c : Cursor} {done : Bool} {first second : List Cursor} (one : Runs c done first)
    (other : Runs c done second) : first = second := by
  induction one generalizing second with
  | stop ends =>
    cases other with
    | stop => rfl
    | go moved => simp [ends] at moved
  | go moved _ ih =>
    cases other with
    | stop ends => simp [ends] at moved
    | go moved' goes =>
      obtain ⟨rfl, rfl⟩ := Prod.mk.inj (Option.some.inj (moved.symm.trans moved'))
      rw [ih goes]

/-- The named nodes behind a node: those of the parts after it, and those behind the node around it. -/
def behind : Node → List Turn → List Cursor
  | _, [] => []
  | node, ⟨parent, before, after⟩ :: way => visitsOf parent way (node :: before) after ++ behind parent way

def pending (c : Cursor) (done : Bool) : List Cursor :=
  (if done then [] else visits c.node c.way) ++ behind c.node c.way

def movesBehind : List Turn → Nat
  | [] => 0
  | turn :: way => movesOf turn.after + 1 + movesBehind way

def movesLeft (c : Cursor) (done : Bool) : Nat := (if done then 1 else moves c.node) + movesBehind c.way

variable {c next : Cursor} {done after : Bool}

theorem leave_none (ends : c.leave = none) : behind c.node c.way = [] ∧ movesBehind c.way = 0 := by
  obtain ⟨node, way⟩ := c
  cases way with
  | nil => exact ⟨rfl, rfl⟩
  | cons turn way =>
    obtain ⟨parent, before, after⟩ := turn
    cases after <;> simp [leave, nextPart?, parent?] at ends

theorem leave_some (moved : c.leave = some (next, after)) :
    behind c.node c.way = next.pending after ∧ movesBehind c.way = next.movesLeft after := by
  obtain ⟨node, way⟩ := c
  cases way with
  | nil => simp [leave, nextPart?, parent?] at moved
  | cons turn way =>
    obtain ⟨parent, before, after⟩ := turn
    cases after with
    | nil =>
      simp only [leave, nextPart?, parent?, Option.map_some, Option.some.injEq, Prod.mk.injEq] at moved
      obtain ⟨rfl, rfl⟩ := moved
      simp [behind, pending, visitsOf, movesBehind, movesLeft, movesOf]
    | cons part rest =>
      simp only [leave, nextPart?, Option.some.injEq, Prod.mk.injEq] at moved
      obtain ⟨rfl, rfl⟩ := moved
      simp [behind, pending, visitsOf, movesBehind, movesLeft, movesOf, Nat.add_assoc]

theorem move_some (moved : c.move done = some (next, after)) :
    c.pending done = c.met done ++ next.pending after ∧ c.movesLeft done = next.movesLeft after + 1 := by
  obtain ⟨⟨kind, role, start, stop, text, parts⟩, way⟩ := c
  cases done with
  | true =>
    obtain ⟨rest, left⟩ := leave_some moved
    simp only [pending, met, movesLeft, rest, left]
    exact ⟨rfl, Nat.add_comm ..⟩
  | false =>
    cases parts with
    | nil =>
      obtain ⟨rest, left⟩ := leave_some moved
      simp only [pending, visits, visitsOf, met, movesLeft, moves, rest, left]
      simp [Nat.add_comm]
    | cons part others =>
      simp only [move, firstPart?, Node.parts, Option.some.injEq, Prod.mk.injEq] at moved
      obtain ⟨rfl, rfl⟩ := moved
      simp only [pending, visits, visitsOf, behind, met, movesLeft, moves, movesOf, movesBehind]
      constructor
      · simp
      · simp
        omega

theorem move_none (ends : c.move done = none) : c.pending done = c.met done := by
  obtain ⟨⟨kind, role, start, stop, text, parts⟩, way⟩ := c
  cases done with
  | true => simp [pending, met, (leave_none ends).1]
  | false =>
    cases parts with
    | nil => simp [pending, visits, visitsOf, met, (leave_none ends).1]
    | cons part others => simp [move, firstPart?, Node.parts] at ends

theorem runs_pending (c : Cursor) (done : Bool) : Runs c done (c.pending done) := by
  induction left : c.movesLeft done using Nat.strongRecOn generalizing c done with
  | ind moves ih =>
    cases moved : c.move done with
    | none =>
      rw [move_none moved]
      exact .stop moved
    | some result =>
      obtain ⟨next, after⟩ := result
      obtain ⟨rest, fewer⟩ := move_some moved
      rw [rest]
      exact .go moved (ih _ (by omega) next after rfl)

theorem runs_walk_iff {root : Node} {found : List Cursor} : Runs (ofRoot root) false found ↔ found = walk root := by
  have runs : Runs (ofRoot root) false (walk root) := by
    have all := runs_pending (ofRoot root) false
    simpa [pending, ofRoot, behind, walk_eq_visits] using all
  constructor
  · intro other
    exact other.unique runs
  · intro same
    rwa [same]

end Cursor

namespace Node

mutual

def listed : Node → List (List Nat × Node)
  | mk kind role start stop text parts =>
    (if (mk kind role start stop text parts).isNamed then [([], mk kind role start stop text parts)] else [])
      ++ listedFrom 0 parts

def listedFrom : Nat → List Node → List (List Nat × Node)
  | _, [] => []
  | i, part :: rest => (listed part).map (fun entry => (i :: entry.1, entry.2)) ++ listedFrom (i + 1) rest

end

mutual

theorem listed_preorder : ∀ node : Node, (listed node).map Prod.snd = preorder node
  | mk kind role start stop text parts => by
    rw [listed, preorder, List.map_append, listedFrom_preorder]
    split <;> rfl

theorem listedFrom_preorder : ∀ (i : Nat) (parts : List Node), (listedFrom i parts).map Prod.snd = preorderOf parts
  | _, [] => rfl
  | i, part :: rest => by
    rw [listedFrom, preorderOf, List.map_append, List.map_map, ← listed_preorder part, listedFrom_preorder]
    rfl

end

mutual

theorem mem_listed : ∀ {node : Node} {path : List Nat} {inner : Node},
    (path, inner) ∈ listed node ↔ node.at? path = some inner ∧ inner.isNamed = true
  | mk kind role start stop text parts, [], inner => by
    have deeper : ([], inner) ∉ listedFrom 0 parts := by simp [mem_listedFrom]
    rw [listed, List.mem_append, or_iff_left deeper, at?, Option.some.injEq]
    constructor
    · intro here
      split at here
      · next named =>
        simp only [List.mem_singleton, Prod.mk.injEq, true_and] at here
        exact ⟨here.symm, here ▸ named⟩
      · cases here
    · rintro ⟨rfl, named⟩
      simp [named]
  | mk kind role start stop text parts, i :: path, inner => by
    have here : (i :: path, inner) ∉ (if (mk kind role start stop text parts).isNamed then
        [(([] : List Nat), mk kind role start stop text parts)] else []) := by
      split <;> simp
    rw [listed, List.mem_append, or_iff_right here, mem_listedFrom, at?, Node.parts]
    simp only [Nat.zero_add, List.cons.injEq]
    constructor
    · rintro ⟨j, rest, ⟨rfl, rfl⟩, found⟩
      exact found
    · exact fun found => ⟨i, path, ⟨rfl, rfl⟩, found⟩

theorem mem_listedFrom : ∀ {i : Nat} {parts : List Node} {path : List Nat} {inner : Node},
    (path, inner) ∈ listedFrom i parts ↔
      ∃ j rest, path = (i + j) :: rest ∧ (parts[j]?).bind (·.at? rest) = some inner ∧ inner.isNamed = true
  | _, [], _, _ => by simp [listedFrom]
  | i, part :: others, path, inner => by
    rw [listedFrom, List.mem_append, List.mem_map, mem_listedFrom]
    constructor
    · rintro (⟨⟨rest, inner⟩, member, same⟩ | ⟨j, rest, rfl, found⟩)
      · obtain ⟨rfl, rfl⟩ := Prod.mk.inj same
        exact ⟨0, rest, rfl, mem_listed.mp member⟩
      · exact ⟨j + 1, rest, by rw [Nat.add_right_comm, Nat.add_assoc], found⟩
    · rintro ⟨j, rest, rfl, found⟩
      cases j with
      | zero => exact .inl ⟨(rest, inner), mem_listed.mpr found, rfl⟩
      | succ j => exact .inr ⟨j, rest, by rw [Nat.add_right_comm, Nat.add_assoc], found⟩

end

mutual

theorem listed_increasing : ∀ node : Node, (listed node).Pairwise fun one other => one.1 < other.1
  | mk kind role start stop text parts => by
    rw [listed, List.pairwise_append]
    refine ⟨?_, listedFrom_increasing 0 parts, ?_⟩
    · split <;> simp
    · intro one here other below
      obtain ⟨j, rest, path, _⟩ := mem_listedFrom.mp below
      split at here
      · rw [List.mem_singleton.mp here, path]
        exact List.nil_lt_cons ..
      · cases here

theorem listedFrom_increasing : ∀ (i : Nat) (parts : List Node),
    (listedFrom i parts).Pairwise fun one other => one.1 < other.1
  | _, [] => .nil
  | i, part :: rest => by
    rw [listedFrom, List.pairwise_append]
    refine ⟨?_, listedFrom_increasing (i + 1) rest, ?_⟩
    · rw [List.pairwise_map]
      exact (listed_increasing part).imp fun before => List.cons_lt_cons_iff.mpr (.inr ⟨rfl, before⟩)
    · intro one here other later
      obtain ⟨⟨path, inner⟩, _, rfl⟩ := List.mem_map.mp here
      obtain ⟨j, rest, path, _⟩ := mem_listedFrom.mp later
      rw [path]
      exact List.cons_lt_cons_iff.mpr (.inl (by omega))

end

end Node

namespace Cursor

mutual

theorem visits_listed : ∀ (node : Node) (way : List Turn),
    (visits node way).map (fun c => (c.path, c.node)) =
      node.listed.map fun entry => (path ⟨node, way⟩ ++ entry.1, entry.2)
  | .mk kind role start stop text parts, way => by
    rw [visits, Node.listed, List.map_append, List.map_append, visitsOf_listed]
    congr 1
    split <;> simp

theorem visitsOf_listed : ∀ (parent : Node) (way : List Turn) (before parts : List Node),
    (visitsOf parent way before parts).map (fun c => (c.path, c.node)) =
      (Node.listedFrom before.length parts).map fun entry => (path ⟨parent, way⟩ ++ entry.1, entry.2)
  | _, _, _, [] => rfl
  | parent, way, before, part :: rest => by
    rw [visitsOf, Node.listedFrom, List.map_append, List.map_append, visits_listed, visitsOf_listed, List.map_map]
    simp [path]

end

/-- The loop that moves a cursor comes to its end, and it has met exactly the named nodes of the tree by then, each of
them once and in the order of the paths to them, every node before its parts. -/
theorem walk_exact (root : Node) :
    (∀ found, Runs (ofRoot root) false found ↔ found = walk root) ∧
      (∀ path node, (∃ c ∈ walk root, c.path = path ∧ c.node = node) ↔
        root.at? path = some node ∧ node.isNamed = true) ∧
      (walk root).Pairwise (fun one other => one.path < other.path) ∧
      (walk root).map Cursor.node = root.preorder := by
  have listed : (walk root).map (fun c => (c.path, c.node)) = root.listed := by
    rw [walk_eq_visits, visits_listed]
    simp [path]
  refine ⟨fun found => runs_walk_iff, ?_, ?_, ?_⟩
  · intro path node
    rw [← Node.mem_listed, ← listed]
    simp
  · have increasing := Node.listed_increasing root
    rwa [← listed, List.pairwise_map] at increasing
  · rw [← Node.listed_preorder, ← listed, List.map_map]
    rfl

end Cursor
end EnvAudit.Script
