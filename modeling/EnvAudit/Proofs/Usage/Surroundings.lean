import EnvAudit.Proofs.Usage.Enclosing
import EnvAudit.Proofs.Usage.Rewrapping

/-! The surroundings of a read, which give the shape that is expected of its value. Only a comparison can fail to: it
reads the text of the other side. Where objects that hold variables stand in layers, the nodes around a read are others
but enclose it in the same way, so the shape can be told of it in both trees or in none. -/
namespace EnvAudit.Usage.Recognizer
open Script

def passes (node : Node) : Bool := isTransparent node || node.kind == .arguments

def shapeIn? (read context : Node) : Except Failure (Option Shape) :=
  match context.kind with
  | .call =>
    .ok ((corePart? .function context).bind fun callee => if callee.encloses read then none else shapeForCall? callee)
  | .binary => shapeForComparison? read context
  | .member => .ok (if (context.part? .property).any (isWritten · "split") then some .array else none)
  | _ => .ok none

theorem shapeOf?_eq (c : Cursor) :
    shapeOf? c = (c.ancestors.find? fun node => !passes node).elim (.ok none) (shapeIn? c.node) := by
  have context : context? c = c.ancestors.find? fun node => !passes node := by
    simp only [context?, passes, Bool.not_or, bne]
  rw [shapeOf?, context]
  cases c.ancestors.find? fun node => !passes node <;> rfl

theorem shapeOf?_cons (read : Node) (turn : Turn) (way : List Turn) :
    shapeOf? ⟨read, turn :: way⟩ = if passes turn.parent then shapeOf? ⟨read, way⟩ else shapeIn? read turn.parent := by
  rw [shapeOf?_eq, shapeOf?_eq, Cursor.ancestors, List.map_cons, List.find?_cons]
  cases passes turn.parent <;> rfl

theorem shapeIn?_returns {read context : Node} (other : context.kind ≠ .binary) : Returns (shapeIn? read context) := by
  rw [shapeIn?]
  split <;> first | contradiction | exact Outcome.returns_ok _

def Quiet (way : List Turn) : Prop := ∀ read, Returns (shapeOf? ⟨read, way⟩)

theorem quiet_nil : Quiet [] := fun _ => Outcome.returns_ok _

theorem Quiet.cons {turn : Turn} {way : List Turn} (quiet : Quiet way) (other : turn.parent.kind ≠ .binary) :
    Quiet (turn :: way) := by
  intro read
  rw [shapeOf?_cons]
  split
  · exact quiet read
  · exact shapeIn?_returns other

theorem quiet_of_context {turn : Turn} {way : List Turn} (context : passes turn.parent = false)
    (other : turn.parent.kind ≠ .binary) : Quiet (turn :: way) := by
  intro read
  rw [shapeOf?_cons, context, if_neg Bool.false_ne_true]
  exact shapeIn?_returns other

def IsSolid (node : Node) : Prop := node.start.offset < node.stop.offset

/-- Whether two nodes enclose two reads, and of the expressions under them both do or none does. -/
structure Hold (node node' read read' : Node) : Prop where
  solid : IsSolid read
  solid' : IsSolid read'
  inside : node.encloses read = true
  inside' : node'.encloses read' = true
  agree : ∀ found found', core? node = some found → core? node' = some found' →
    found.encloses read = found'.encloses read'

/-- Whether the shapes of two reads in two nodes can be told from the surroundings of these alike. -/
def Alike (node node' : Node) (way way' : List Turn) : Prop :=
  ∀ read read', Hold node node' read read' → (Returns (shapeOf? ⟨read, way⟩) ↔ Returns (shapeOf? ⟨read', way'⟩))

theorem alike_of_quiet {node node' : Node} {way way' : List Turn} (quiet : Quiet way) (quiet' : Quiet way') :
    Alike node node' way way' := fun read read' _ => iff_of_true (quiet read) (quiet' read')

structure Matched (parts parts' : List Node) (part part' : Node) : Prop where
  split : ∃ front back front' back' lost, parts = front ++ part :: back ∧ parts' = front' ++ part' :: back' ∧
    RewrapsAll front front' lost
  same : Rewrapped part part'
  role : part'.role = part.role

variable {source source' : List Char} {node node' part part' read read' : Node} {parts parts' front back lost : List Node}

theorem Matched.mem (matched : Matched parts parts' part part') : part ∈ parts ∧ part' ∈ parts' := by
  obtain ⟨front, back, front', back', lost, split, split', _⟩ := matched.split
  simp [split, split']

theorem Matched.cons {other other' : Node} (matched : Matched parts parts' part part') (role : other'.role = other.role)
    (first : Rewraps other other' lost) : Matched (other :: parts) (other' :: parts') part part' := by
  obtain ⟨front, back, front', back', before, split, split', similar⟩ := matched.split
  refine ⟨⟨other :: front, back, other' :: front', back', _, ?_, ?_, .cons role first similar⟩, matched.same, matched.role⟩
  · rw [split, List.cons_append]
  · rw [split', List.cons_append]

theorem not_encloses_of_other (lies : Lies source node) (split : node.parts = front ++ part :: back)
    {other found : Node} (member : other ∈ front ∨ other ∈ back) (under : core? other = some found)
    (inside : part.encloses read = true) (solid : IsSolid read) : found.encloses read = false := by
  have apart : other.IsApart part := by
    rcases member with member | member
    · exact lies.isApart_front split member
    · exact lies.isApart_back split member
  have lies : Lies source other := lies.part (by rcases member with member | member <;> simp [split, member])
  exact apart.not_encloses (encloses_core? lies under) inside solid

theorem Hold.choice {p : Node → Bool} (hold : Hold part part' read read')
    (same : ∀ node node' : Node, node'.kind = node.kind → node'.role = node.role → p node' = p node)
    (lies : Lies source node) (lies' : Lies source' node') (matched : Matched node.parts node'.parts part part')
    {found found' : Node} (chosen : (node.parts.find? p).bind core? = some found)
    (chosen' : (node'.parts.find? p).bind core? = some found') : found.encloses read = found'.encloses read' := by
  obtain ⟨front, back, front', back', lost, split, split', before⟩ := matched.split
  have related := before.find? same
  rw [split, List.find?_append] at chosen
  rw [split', List.find?_append] at chosen'
  have apart {other : Node} (member : other ∈ front ∨ other ∈ back) (under : core? other = some found) :=
    not_encloses_of_other lies split member under hold.inside hold.solid
  have apart' {other : Node} (member : other ∈ front' ∨ other ∈ back') (under : core? other = some found') :=
    not_encloses_of_other lies' split' member under hold.inside' hold.solid'
  cases here : front.find? p with
  | some other =>
    rw [here] at related chosen
    cases there : front'.find? p with
    | none =>
      rw [there] at related
      cases related
    | some other' =>
      rw [there] at chosen'
      rw [apart (.inl (List.mem_of_find?_eq_some here)) chosen, apart' (.inl (List.mem_of_find?_eq_some there)) chosen']
  | none =>
    rw [here] at related chosen
    cases there : front'.find? p with
    | some other' =>
      rw [there] at related
      cases related
    | none =>
      rw [there] at chosen'
      rw [Option.none_or, List.find?_cons] at chosen chosen'
      obtain ⟨_, first⟩ := matched.same
      rw [same part part' first.kind matched.role] at chosen'
      cases taken : p part with
      | true =>
        rw [taken] at chosen chosen'
        exact hold.agree found found' chosen chosen'
      | false =>
        rw [taken] at chosen chosen'
        obtain ⟨other, member, under⟩ := Option.bind_eq_some_iff.mp chosen
        obtain ⟨other', member', under'⟩ := Option.bind_eq_some_iff.mp chosen'
        rw [apart (.inr (List.mem_of_find?_eq_some member)) under,
          apart' (.inr (List.mem_of_find?_eq_some member')) under']

theorem Hold.outer (hold : Hold part part' read read') (rewraps : Rewraps node node' lost) (lies : Lies source node)
    (lies' : Lies source' node') (matched : Matched node.parts node'.parts part part') :
    Hold node node' read read' := by
  have inside := Node.encloses_trans (lies.encloses_part matched.mem.1) hold.inside
  have inside' := Node.encloses_trans (lies'.encloses_part matched.mem.2) hold.inside'
  refine ⟨hold.solid, hold.solid', inside, inside', fun found found' under under' => ?_⟩
  have same : isTransparent node' = isTransparent node := by rw [isTransparent, isTransparent, rewraps.kind]
  cases transparent : isTransparent node with
  | true =>
    rw [core?_transparent transparent] at under
    rw [core?_transparent (same.trans transparent)] at under'
    exact hold.choice (fun _ _ kind _ => by rw [Node.isNamed, Node.isNamed, kind]) lies lies' matched under under'
  | false =>
    rw [core?_self transparent] at under
    rw [core?_self (same.trans transparent)] at under'
    cases under
    cases under'
    rw [inside, inside']

theorem Hold.isTruthText (hold : Hold part part' read read') (rewraps : Rewraps node node' lost)
    (lies : Lies source node) (lies' : Lies source' node') (matched : Matched node.parts node'.parts part part')
    {side : Role} (other : sourceRole? node.kind ≠ some side) :
    isTruthText read' node' side = isTruthText read node side := by
  have related := rewraps.corePart? _ other
  have agree : ∀ found found', corePart? side node = some found → corePart? side node' = some found' →
      found.encloses read = found'.encloses read' := fun _ _ chosen chosen' =>
    hold.choice (p := (·.role == some side)) (fun _ _ _ same => by rw [same]) lies lies' matched chosen chosen'
  rw [Recognizer.isTruthText, Recognizer.isTruthText]
  generalize corePart? side node = operand at related agree ⊢
  generalize corePart? side node' = operand' at related agree ⊢
  cases related with
  | none => rfl
  | @some operand operand' related =>
    dsimp only
    rw [agree operand operand' rfl rfl, related.choose_spec.literalValue?]

theorem equality_congr (rewraps : Rewraps node node' lost) (other : sourceRole? node.kind ≠ some .operator) :
    (node'.part? .operator).any (fun operator => equalitySigns.any (isWritten operator)) =
      (node.part? .operator).any (fun operator => equalitySigns.any (isWritten operator)) := by
  have related := rewraps.part? _ other
  generalize node.part? .operator = operator at related ⊢
  generalize node'.part? .operator = operator' at related ⊢
  cases related with
  | none => rfl
  | @some operator operator' related =>
    have written (sign : String) (plain : 'v' ∉ sign.toList) : isWritten operator' sign = isWritten operator sign :=
      related.choose_spec.isWritten plain
    simp only [Option.any_some, equalitySigns, List.any_cons, List.any_nil, written "==" (by decide),
      written "===" (by decide), written "!=" (by decide), written "!==" (by decide)]

theorem Hold.shapeIn? (hold : Hold part part' read read') (rewraps : Rewraps node node' lost)
    (lies : Lies source node) (lies' : Lies source' node') (matched : Matched node.parts node'.parts part part')
    (binary : node.kind = .binary) : shapeIn? read' node' = shapeIn? read node := by
  have other (role : Role) : sourceRole? node.kind ≠ some role := by simp [binary, sourceRole?]
  have side (side : Role) : Recognizer.isTruthText read' node' side = Recognizer.isTruthText read node side :=
    hold.isTruthText rewraps lies lies' matched (other side)
  rw [Recognizer.shapeIn?, Recognizer.shapeIn?, rewraps.kind, binary, shapeForComparison?, shapeForComparison?,
    equality_congr rewraps (other _), side, side]

/-- Whether the parts of a node lie where they say, and the node itself does if it is more than a row of parts. -/
structure Placed (source : List Char) (node : Node) : Prop where
  parts : ∀ part ∈ node.parts, Lies source part
  whole : node.kind = .construct ∨ Lies source node

theorem placed_of_lies (lies : Lies source node) : Placed source node := ⟨fun _ => lies.part, .inr lies⟩

theorem Alike.inner {way way' : List Turn} (alike : Alike node node' way way') (rewraps : Rewraps node node' lost)
    (placed : Placed source node) (placed' : Placed source' node')
    (matched : Matched node.parts node'.parts part part') (above below above' below' : List Node) :
    Alike part part' (⟨node, above, below⟩ :: way) (⟨node', above', below'⟩ :: way') := by
  intro read read' hold
  have passed : passes node' = passes node := by
    simp only [passes, isTransparent, rewraps.kind]
  rw [shapeOf?_cons, shapeOf?_cons, passed]
  -- A node that matters here is more than a row of parts, so it lies around its parts.
  by_cases row : node.kind = .construct
  · have stops : passes node = false := by simp [passes, isTransparent, row]
    rw [stops]
    exact iff_of_true (shapeIn?_returns (by rw [row]; decide)) (shapeIn?_returns (by rw [rewraps.kind, row]; decide))
  have lies := placed.whole.resolve_left row
  have lies' := placed'.whole.resolve_left (by rwa [rewraps.kind])
  cases passes node with
  | true => exact alike read read' (hold.outer rewraps lies lies' matched)
  | false =>
    rw [if_neg Bool.false_ne_true, if_neg Bool.false_ne_true]
    by_cases binary : node.kind = .binary
    · rw [hold.shapeIn? rewraps lies lies' matched binary]
    · exact iff_of_true (shapeIn?_returns binary) (shapeIn?_returns (by rwa [rewraps.kind]))

end EnvAudit.Usage.Recognizer
