import EnvAudit.Script.Reading

/-! Where the nodes of a source lie. A token is a leaf that covers its own characters, and a node with parts reaches
from the start of the first one to the end of the last one. The parts lie one behind the other in the order in which
they are kept. -/
namespace EnvAudit.Script

def Place.afterAll (place : Place) (text : List Char) : Place := text.foldl Place.after place

theorem Place.afterAll_append (place : Place) (first second : List Char) :
    place.afterAll (first ++ second) = (place.afterAll first).afterAll second := List.foldl_append

def placeAt (source : List Char) (i : Nat) : Place := Place.afterAll ⟨0, 0, 0⟩ (source.take i)

def slice (source : List Char) (i j : Nat) : List Char := (source.drop i).take (j - i)

section Points
variable {source rest : List Char} {c : Char} {i j k : Nat}

theorem drop_succ (left : source.drop k = c :: rest) : source.drop (k + 1) = rest := by
  rw [← List.tail_drop, left, List.tail_cons]

theorem placeAt_succ (left : source.drop k = c :: rest) :
    placeAt source (k + 1) = (placeAt source k).after c := by
  have head : source[k]? = some c := by rw [← List.head?_drop, left, List.head?_cons]
  rw [placeAt, placeAt, List.take_add_one, head, Place.afterAll_append]
  rfl

theorem slice_self (source : List Char) (k : Nat) : slice source k k = [] := by simp [slice]

theorem slice_succ (le : i ≤ k) (left : source.drop k = c :: rest) :
    slice source i (k + 1) = slice source i k ++ [c] := by
  have head : (source.drop i)[k - i]? = some c := by
    rw [List.getElem?_drop, Nat.add_sub_cancel' le, ← List.head?_drop, left, List.head?_cons]
  rw [slice, slice, Nat.succ_sub le, List.take_add_one, head]
  rfl

theorem take_append_slice_append (source : List Char) (le : i ≤ j) :
    source.take i ++ slice source i j ++ source.drop j = source := by
  have later : (source.drop i).drop (j - i) = source.drop j := by rw [List.drop_drop, Nat.add_sub_cancel' le]
  rw [slice, List.append_assoc, ← later, List.take_append_drop, List.take_append_drop]

theorem slice_append (source : List Char) (first : i ≤ j) (second : j ≤ k) :
    slice source i j ++ slice source j k = slice source i k := by
  have later : source.drop j = (source.drop i).drop (j - i) := by rw [List.drop_drop, Nat.add_sub_cancel' first]
  have total : j - i + (k - j) = k - i := by omega
  rw [slice, slice, slice, later, ← List.take_add, total]

end Points

@[reducible] def Kind.isComposite : Kind → Bool
  | .mark | .comment | .identifier | .propertyName | .privateName | .keyword | .number | .regex | .fragment | .escape
  | .markupText | .shorthandName => false
  | _ => true

inductive Laid (source : List Char) : Nat → List Node → Nat → Prop
  | nil {i j : Nat} (le : i ≤ j) : Laid source i [] j
  | token {i a b j : Nat} {kind : Kind} {role : Option Role} {rest : List Node} (before : i ≤ a) (le : a ≤ b)
      (later : Laid source b rest j) :
      Laid source i (.mk kind role (placeAt source a) (placeAt source b) (slice source a b) [] :: rest) j
  | composite {i b j : Nat} {kind : Kind} {role : Option Role} {first : Node} {others rest : List Node}
      (composite : kind.isComposite = true) (within : Laid source i (first :: others) b)
      (later : Laid source b rest j) :
      Laid source i (.mk kind role first.start (others.getLast?.getD first).stop [] (first :: others) :: rest) j

namespace Laid
variable {source : List Char} {i j k : Nat} {nodes first second others : List Node} {node head : Node}

theorem le (laid : Laid source i nodes j) : i ≤ j := by
  induction laid with
  | nil le => exact le
  | token before le _ later => exact Nat.le_trans (Nat.le_trans before le) later
  | composite _ _ _ within later => exact Nat.le_trans within later

theorem earlier (laid : Laid source i nodes j) (le : k ≤ i) : Laid source k nodes j := by
  induction laid with
  | nil le' => exact .nil (Nat.le_trans le le')
  | token before le' later _ => exact .token (Nat.le_trans le before) le' later
  | composite composite _ later within _ => exact .composite composite (within le) later

theorem longer (laid : Laid source i nodes j) (le : j ≤ k) : Laid source i nodes k := by
  induction laid with
  | nil le' => exact .nil (Nat.le_trans le' le)
  | token before le' _ later => exact .token before le' (later le)
  | composite composite within _ _ later => exact .composite composite within (later le)

theorem append (front : Laid source i first j) (back : Laid source j second k) : Laid source i (first ++ second) k := by
  induction front with
  | nil le => exact back.earlier le
  | token before le _ later => exact .token before le (later back)
  | composite composite within _ _ later => exact .composite composite within (later back)

theorem tail (laid : Laid source i (head :: others) j) :
    ∃ b, Laid source i [head] b ∧ Laid source b others j := by
  cases laid with
  | token before le later => exact ⟨_, .token before le (.nil (Nat.le_refl _)), later⟩
  | composite composite within later => exact ⟨_, .composite composite within (.nil (Nat.le_refl _)), later⟩

theorem append_inv (laid : Laid source i (first ++ second) k) :
    ∃ j, Laid source i first j ∧ Laid source j second k := by
  induction first generalizing i with
  | nil => exact ⟨i, .nil (Nat.le_refl _), laid⟩
  | cons head others ih =>
    obtain ⟨b, here, later⟩ := laid.tail
    obtain ⟨j, front, back⟩ := ih later
    exact ⟨j, here.append front, back⟩

theorem part (laid : Laid source i nodes j) (member : node ∈ nodes) :
    ∃ a b, i ≤ a ∧ b ≤ j ∧ Laid source a [node] b := by
  obtain ⟨first, second, rfl⟩ := List.append_of_mem member
  obtain ⟨a, front, back⟩ := laid.append_inv
  obtain ⟨b, here, later⟩ := back.tail
  exact ⟨a, b, front.le, later.le, here⟩

theorem withRole (laid : Laid source i [node] j) (role : Role) : Laid source i [node.withRole role] j := by
  cases laid with
  | token before le later => exact .token before le later
  | composite composite within later => exact .composite composite within later

theorem playing (laid : Laid source i nodes j) (role : Role) : Laid source i (playing role nodes) j := by
  rcases List.eq_nil_or_concat nodes with rfl | ⟨others, node, rfl⟩
  · exact laid
  · rw [List.concat_eq_append] at laid ⊢
    obtain ⟨k, front, last⟩ := laid.append_inv
    simpa [Script.playing] using front.append (last.withRole role)

theorem wrap {kind : Kind} (laid : Laid source i nodes j) (composite : kind.isComposite = true) :
    Laid source i (wrap kind nodes) j := by
  have split : nodes.takeWhile (·.kind == .comment) ++ nodes.dropWhile (·.kind == .comment) = nodes :=
    List.takeWhile_append_dropWhile
  have back : nodes.drop (nodes.takeWhile (·.kind == .comment)).length = nodes.dropWhile (·.kind == .comment) :=
    (congrArg (List.drop _) split.symm).trans List.drop_left
  rw [Script.wrap, back]
  -- Comments in front of the first part stay outside of the new node.
  rw [← split] at laid
  obtain ⟨k, comments, parts⟩ := laid.append_inv
  generalize nodes.dropWhile (·.kind == .comment) = rest at parts
  cases rest with
  | nil => exact comments.longer parts.le
  | cons first others => exact comments.append (.composite composite parts (.nil (Nat.le_refl _)))

theorem tighten (laid : Laid source i (head :: others) j) :
    ∃ a b, i ≤ a ∧ b ≤ j ∧ head.start = placeAt source a ∧ (others.getLast?.getD head).stop = placeAt source b ∧
      Laid source a (head :: others) b := by
  generalize same : head :: others = nodes at laid
  -- A composite reaches as far as its parts do, so the induction goes into the parts and along the row.
  induction laid generalizing head others with
  | nil => cases same
  | @token i a b j kind role rest before le later ih =>
    cases same
    cases rest with
    | nil => exact ⟨a, b, before, later.le, rfl, rfl, .token (Nat.le_refl _) le (.nil (Nat.le_refl _))⟩
    | cons second rest =>
      obtain ⟨a', b', after, ends, _, stop, tight⟩ := ih rfl
      rw [List.getLast?_cons]
      exact ⟨a, b', before, ends, rfl, stop, .token (Nat.le_refl _) le (tight.earlier after)⟩
  | @composite i b j kind role first parts rest composite within later inside ih =>
    cases same
    obtain ⟨a, a', before, ends, start, stop, tight⟩ := inside rfl
    cases rest with
    | nil =>
      exact ⟨a, a', before, Nat.le_trans ends later.le, start, stop, .composite composite tight (.nil (Nat.le_refl _))⟩
    | cons second rest =>
      obtain ⟨c, d, after, ends', _, stop', tight'⟩ := ih rfl
      rw [List.getLast?_cons]
      exact ⟨a, d, before, ends', start, stop', .composite composite tight (tight'.earlier (Nat.le_trans ends after))⟩

end Laid

def Lies (source : List Char) (node : Node) : Prop := ∃ i j, Laid source i [node] j

theorem Lies.part {source : List Char} {node part : Node} (lies : Lies source node) (member : part ∈ node.parts) :
    Lies source part := by
  obtain ⟨i, j, laid⟩ := lies
  cases laid with
  | token => cases member
  | composite _ within _ =>
    obtain ⟨a, b, _, _, laid⟩ := within.part member
    exact ⟨a, b, laid⟩

end EnvAudit.Script
