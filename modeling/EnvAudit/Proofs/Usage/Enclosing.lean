import EnvAudit.Proofs.Usage.Placing
import EnvAudit.Usage.Recognizer

/-! Which nodes enclose which others. A node encloses its parts and the expression under it, and nothing that belongs
to another part of the same node and is more than blank. -/
namespace EnvAudit.Script

section Offsets
variable {source : List Char} {i j k : Nat}

theorem offset_placeAt (source : List Char) (i : Nat) :
    (placeAt source i).offset = Text.byteLength (source.take i) := by rw [placeAt_eq]

theorem offset_slice (le : i ≤ j) :
    (placeAt source j).offset = (placeAt source i).offset + Text.byteLength (slice source i j) := by
  have parts : source.take j = source.take i ++ slice source i j := by
    have later := slice_append source (Nat.zero_le i) le
    simpa [slice] using later.symm
  rw [offset_placeAt, offset_placeAt, parts, Text.byteLength_append]

theorem offset_mono (le : i ≤ j) : (placeAt source i).offset ≤ (placeAt source j).offset := by
  rw [offset_slice le]
  exact Nat.le_add_right _ _

end Offsets

variable {source : List Char} {node part found read : Node} {nodes front back : List Node} {i j : Nat}

theorem Laid.tokens_sublist (laid : Laid source i nodes j) : (Node.tokensOf nodes).Sublist (slice source i j) := by
  induction laid with
  | nil => exact List.nil_sublist _
  | @token i a b j kind role rest before le later ih =>
    have whole : slice source i j = slice source i a ++ (slice source a b ++ slice source b j) := by
      rw [slice_append source le later.le, slice_append source before (Nat.le_trans le later.le)]
    rw [Node.tokensOf, Node.tokens, Node.tokensOf, List.append_nil, whole]
    exact ((List.Sublist.refl _).append ih).trans (List.sublist_append_right _ _)
  | @composite i b j kind role first others rest composite within later inside ih =>
    rw [Node.tokensOf, Node.tokens, List.nil_append, ← slice_append source within.le later.le]
    exact inside.append ih

theorem Laid.bounds (laid : Laid source i nodes j) (member : node ∈ nodes) :
    (placeAt source i).offset ≤ node.start.offset ∧ node.stop.offset ≤ (placeAt source j).offset := by
  obtain ⟨_, _, first, last, single⟩ := laid.part member
  obtain ⟨a, b, before, after, start, stop, _⟩ := single.tighten
  simp only [List.getLast?_nil, Option.getD_none] at stop
  rw [start, stop]
  exact ⟨offset_mono (Nat.le_trans first before), offset_mono (Nat.le_trans after last)⟩

theorem Lies.laid_parts (lies : Lies source node) : ∃ i j, Laid source i node.parts j ∧
    (placeAt source i).offset = node.start.offset ∧ (placeAt source j).offset = node.stop.offset := by
  obtain ⟨i, j, laid, start, stop⟩ := lies.spans
  rw [start, stop]
  cases laid with
  | token before le later => exact ⟨i, j, .nil (Nat.le_trans before (Nat.le_trans le later.le)), rfl, rfl⟩
  | composite _ within later => exact ⟨i, j, within.longer later.le, rfl, rfl⟩

theorem encloses_iff {outer inner : Node} : outer.encloses inner = true ↔
    outer.start.offset ≤ inner.start.offset ∧ inner.stop.offset ≤ outer.stop.offset := by
  simp [Node.encloses]

theorem Node.encloses_refl (node : Node) : node.encloses node = true :=
  encloses_iff.mpr ⟨Nat.le_refl _, Nat.le_refl _⟩

theorem Node.encloses_trans {outer middle inner : Node} (first : outer.encloses middle = true)
    (second : middle.encloses inner = true) : outer.encloses inner = true := by
  rw [encloses_iff] at *
  omega

theorem Lies.encloses_part (lies : Lies source node) (member : part ∈ node.parts) : node.encloses part = true := by
  obtain ⟨i, j, laid, start, stop⟩ := lies.laid_parts
  have bounds := laid.bounds member
  exact encloses_iff.mpr ⟨start ▸ bounds.1, stop ▸ bounds.2⟩

theorem Lies.start_lt_stop (lies : Lies source node) (written : node.tokens ≠ []) :
    node.start.offset < node.stop.offset := by
  obtain ⟨i, j, laid, start, stop⟩ := lies.spans
  have sublist : node.tokens.Sublist (slice source i j) := by
    simpa [Node.tokensOf] using laid.tokens_sublist
  have length := List.length_pos_iff.mpr written
  have := sublist.length_le
  have := Text.length_le_byteLength (slice source i j)
  rw [start, stop, offset_slice laid.le]
  omega

/-- Whether a node lies somewhere else than another one: it encloses nothing of it. -/
def Node.IsApart (node other : Node) : Prop :=
  node.stop.offset ≤ other.start.offset ∨ other.stop.offset ≤ node.start.offset

theorem Lies.isApart_front (lies : Lies source node) (parts : node.parts = front ++ part :: back) {other : Node}
    (member : other ∈ front) : other.IsApart part := by
  obtain ⟨i, j, laid, _, _⟩ := lies.laid_parts
  rw [parts] at laid
  obtain ⟨k, before, behind⟩ := laid.append_inv
  exact .inl (Nat.le_trans (before.bounds member).2 (behind.bounds List.mem_cons_self).1)

theorem Lies.isApart_back (lies : Lies source node) (parts : node.parts = front ++ part :: back) {other : Node}
    (member : other ∈ back) : other.IsApart part := by
  obtain ⟨i, j, laid, _, _⟩ := lies.laid_parts
  rw [parts] at laid
  obtain ⟨k, before, behind⟩ := laid.append_inv
  obtain ⟨k, here, later⟩ := behind.tail
  exact .inr (Nat.le_trans (here.bounds List.mem_cons_self).2 (later.bounds member).1)

theorem Node.IsApart.not_encloses {outer other : Node} (apart : outer.IsApart other)
    (inside : outer.encloses found = true) (within : other.encloses read = true) (solid : read.start.offset < read.stop.offset) :
    found.encloses read = false := by
  rw [Bool.eq_false_iff, ne_eq, encloses_iff]
  rw [encloses_iff] at inside within
  unfold IsApart at apart
  omega

end EnvAudit.Script

namespace EnvAudit.Usage.Recognizer
open Script

variable {source : List Char} {found : Node}

mutual

theorem encloses_core? : ∀ {node : Node}, Lies source node → core? node = some found → node.encloses found = true
  | .mk kind role start stop text parts, lies, under => by
    rw [core?] at under
    split at under
    · obtain ⟨part, member, inside⟩ := encloses_coreOf? (fun part member => lies.part member) under
      exact Node.encloses_trans (lies.encloses_part member) inside
    · cases under
      exact Node.encloses_refl _

theorem encloses_coreOf? : ∀ {nodes : List Node}, (∀ node ∈ nodes, Lies source node) → coreOf? nodes = some found →
    ∃ node ∈ nodes, node.encloses found = true
  | part :: rest, lie, under => by
    rw [coreOf?] at under
    split at under
    · exact ⟨part, List.mem_cons_self, encloses_core? (lie part List.mem_cons_self) under⟩
    · have later (node : Node) (member : node ∈ rest) : Lies source node := lie node (List.mem_cons_of_mem _ member)
      obtain ⟨node, member, inside⟩ := encloses_coreOf? later under
      exact ⟨node, List.mem_cons_of_mem _ member, inside⟩

end

end EnvAudit.Usage.Recognizer
