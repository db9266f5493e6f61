import EnvAudit.Proofs.Script.Placement
import EnvAudit.Proofs.Usage.Reads

/-! Layers around the objects that hold variables. Parentheses and assertions about a value or its type do not change
what an expression stands for, and the object under them is still found where the expression is the first part of every
layer that counts. A comment in front of it stands for the expression itself, and so does an assertion in angle
brackets. -/
namespace EnvAudit.Usage.Recognizer
open Script

def IsSilent (node : Node) : Prop := ∀ inner ∈ node.preorder, readsAt inner = .ok []

/-- Whether a node is an expression in one more layer: in parentheses, with an exclamation mark, with a type after it,
or with a type in angle brackets before it. What else stands in the layer reads nothing. The layer is clear if nothing
stands before the expression but an opening parenthesis. -/
inductive Layer (inner : Node) : Node → Bool → Prop
  | parenthesized {role : Option Role} {start stop : Place} {opening closing : Node} {before after : List Node}
      (marks : opening.kind = .mark ∧ closing.kind = .mark)
      (comments : ∀ part ∈ before ++ after, part.kind = .comment)
      (silent : ∀ part ∈ (opening :: before) ++ (after ++ [closing]), IsSilent part) :
      Layer inner (.mk .parenthesized role start stop [] ((opening :: before) ++ inner :: (after ++ [closing])))
        before.isEmpty
  | nonNull {role : Option Role} {start stop : Place} {comments : List Node} {sign : Node}
      (silent : ∀ part ∈ [] ++ (comments ++ [sign]), IsSilent part) :
      Layer inner (.mk .nonNull role start stop [] ([] ++ inner :: (comments ++ [sign]))) true
  | asserted {kind : Kind} {role : Option Role} {start stop : Place} {assertion : List Node}
      (asserts : kind = .asserted ∨ kind = .satisfied) (silent : ∀ part ∈ [] ++ assertion, IsSilent part) :
      Layer inner (.mk kind role start stop [] ([] ++ inner :: assertion)) true
  | typed {role : Option Role} {start stop : Place} {types : Node} {comments : List Node}
      (angles : types.kind = .construct) (silent : ∀ part ∈ (types :: comments) ++ [], IsSilent part) :
      Layer inner (.mk .construct role start stop [] ((types :: comments) ++ inner :: [])) false

/-- Whether a node is an expression in layers. They are clear if each of them is. -/
inductive Layers (inner : Node) : Node → Bool → Prop
  | one {outer : Node} {clear : Bool} (layer : Layer inner outer clear) : Layers inner outer clear
  | more {middle outer : Node} {within clear : Bool} (inside : Layers inner middle within)
      (layer : Layer middle outer clear) : Layers inner outer (within && clear)

variable {node inner outer object found : Node} {clear : Bool} {chain : Chain} {c : Char}

theorem isComposite_of_sourceRole? {kind : Kind} {source : Role} (takes : sourceRole? kind = some source) :
    kind.isComposite = true := by
  cases kind <;> first | rfl | cases takes

section Tokens

theorem mem_tokensOf {nodes : List Node} (member : node ∈ nodes) (written : c ∈ node.tokens) :
    c ∈ Node.tokensOf nodes := by
  induction nodes with
  | nil => cases member
  | cons head rest ih =>
    rw [Node.tokensOf, List.mem_append]
    rcases List.mem_cons.mp member with rfl | later
    · exact .inl written
    · exact .inr (ih later)

theorem mem_tokens {part : Node} (member : part ∈ node.parts) (written : c ∈ part.tokens) : c ∈ node.tokens := by
  cases node
  exact List.mem_append_right _ (mem_tokensOf member written)

mutual

theorem mem_tokens_core? : ∀ {node : Node}, core? node = some found → c ∈ found.tokens → c ∈ node.tokens
  | .mk kind role start stop text parts, under, written => by
    rw [core?] at under
    split at under
    · exact List.mem_append_right _ (mem_tokensOf_coreOf? under written)
    · cases under
      exact written

theorem mem_tokensOf_coreOf? : ∀ {nodes : List Node}, coreOf? nodes = some found → c ∈ found.tokens →
    c ∈ Node.tokensOf nodes
  | part :: rest, under, written => by
    rw [coreOf?] at under
    rw [Node.tokensOf, List.mem_append]
    split at under
    · exact .inl (mem_tokens_core? under written)
    · exact .inr (mem_tokensOf_coreOf? under written)

end

def holderChain? (holder : Node) : Option Chain :=
  if isNameOf "process" holder then some .server else if isModuleInfo holder then some .client else none

def accessChain? (access : Node) : Option Chain :=
  (access.part? .property).bind fun property =>
    if access.kind != .member || property.kind != .propertyName || !isWritten property "env" then none
    else (corePart? .object access).bind holderChain?

theorem chainOf?_eq (node : Node) : chainOf? node = (core? node).bind accessChain? := by
  unfold chainOf? accessChain?
  refine congrArg _ (funext fun access => ?_)
  cases access.part? .property with
  | none => rfl
  | some property =>
    simp only [bind, Option.bind]
    split
    · rfl
    · cases corePart? .object access with
      | none => rfl
      | some holder =>
        simp only [holderChain?]
        split
        · rfl
        · split <;> rfl

theorem of_accessChain? {access : Node} (holds : accessChain? access = some chain) :
    access.kind = .member ∧ 'v' ∈ access.tokens := by
  obtain ⟨property, part, rest⟩ := Option.bind_eq_some_iff.mp holds
  split at rest
  · cases rest
  · next plain =>
    simp only [Bool.or_eq_true, bne_iff_ne, Bool.not_eq_true', not_or, not_not, Bool.not_eq_false] at plain
    obtain ⟨⟨member, _⟩, written⟩ := plain
    refine ⟨member, mem_tokens (List.mem_of_find?_eq_some part) ?_⟩
    rw [beq_iff_eq.mp written]
    decide

theorem of_chainOf? (holds : chainOf? object = some chain) :
    ∃ access, core? object = some access ∧ access.kind = .member ∧ 'v' ∈ access.tokens := by
  rw [chainOf?_eq] at holds
  obtain ⟨access, under, holds⟩ := Option.bind_eq_some_iff.mp holds
  exact ⟨access, under, of_accessChain? holds⟩

end Tokens

theorem coreOf?_eq (nodes : List Node) : coreOf? nodes = (nodes.find? Node.isNamed).bind core? := by
  induction nodes with
  | nil => rfl
  | cons node rest ih =>
    rw [coreOf?, List.find?_cons, ih]
    cases node.isNamed <;> rfl

/-- Under a transparent node lies what lies under its first part that is more than a mark. -/
theorem core?_transparent (transparent : isTransparent node = true) :
    core? node = (node.parts.find? Node.isNamed).bind core? := by
  obtain ⟨kind, role, start, stop, text, parts⟩ := node
  rw [core?, if_pos transparent, coreOf?_eq, Node.parts]

theorem core?_self (plain : isTransparent node = false) : core? node = some node := by
  obtain ⟨kind, role, start, stop, text, parts⟩ := node
  rw [core?, if_neg (Bool.eq_false_iff.mp plain)]

section Layers

theorem Layer.isNamed (layer : Layer inner outer clear) : outer.isNamed = true := by
  cases layer with
  | asserted asserts => rcases asserts with rfl | rfl <;> rfl
  | _ => rfl

theorem Layer.mem_tokens (layer : Layer inner outer clear) (written : c ∈ inner.tokens) : c ∈ outer.tokens := by
  have member : inner ∈ outer.parts := by cases layer <;> exact List.mem_append_right _ List.mem_cons_self
  exact Recognizer.mem_tokens member written

theorem Layer.core?_clear (layer : Layer inner outer clear) (isClear : clear = true) (named : inner.isNamed = true) :
    core? outer = core? inner := by
  cases layer with
  | @parenthesized _ _ _ opening closing before after marks =>
    cases List.isEmpty_iff.mp isClear
    have unnamed : opening.isNamed = false := by rw [Node.isNamed, marks.1]; rfl
    simp [core?_transparent, isTransparent, Node.kind, Node.parts, unnamed, named]
  | nonNull => simp [core?_transparent, isTransparent, Node.kind, Node.parts, named]
  | asserted asserts =>
    rcases asserts with rfl | rfl <;> simp [core?_transparent, isTransparent, Node.kind, Node.parts, named]
  | typed => cases isClear

/-- Under a layer that is not clear there is a comment or an assertion in angle brackets. -/
theorem Layer.core?_hidden (layer : Layer inner outer clear) (hidden : clear = false) :
    ∃ found, core? outer = some found ∧ (found.kind = .comment ∨ found.kind = .construct) := by
  cases layer with
  | @parenthesized _ _ _ opening closing before after marks comments =>
    obtain ⟨comment, rest, rfl⟩ := List.exists_cons_of_ne_nil (List.isEmpty_eq_false_iff.mp hidden)
    have kind : comment.kind = .comment := comments comment (List.mem_append_left _ List.mem_cons_self)
    refine ⟨comment, ?_, .inl kind⟩
    rw [core?_transparent rfl, Node.parts]
    simp [Node.isNamed, marks.1, kind, core?_self, isTransparent]
  | nonNull => cases hidden
  | asserted => cases hidden
  | typed => exact ⟨_, rfl, .inr rfl⟩

theorem Layers.isNamed (layers : Layers inner outer clear) : outer.isNamed = true := by
  cases layers with
  | one layer => exact layer.isNamed
  | more _ layer => exact layer.isNamed

theorem Layers.mem_tokens (layers : Layers inner outer clear) (written : c ∈ inner.tokens) : c ∈ outer.tokens := by
  induction layers with
  | one layer => exact layer.mem_tokens written
  | more _ layer ih => exact layer.mem_tokens ih

theorem Layers.core?_clear (layers : Layers inner outer clear) (isClear : clear = true) (named : inner.isNamed = true) :
    core? outer = core? inner := by
  induction layers with
  | one layer => exact layer.core?_clear isClear named
  | more inside layer ih =>
    obtain ⟨within, isClear⟩ := Bool.and_eq_true_iff.mp isClear
    rw [layer.core?_clear isClear inside.isNamed, ih within]

theorem Layers.core?_hidden (layers : Layers inner outer clear) (hidden : clear = false) :
    ∃ found, core? outer = some found ∧ (found.kind = .comment ∨ found.kind = .construct) := by
  induction layers with
  | one layer => exact layer.core?_hidden hidden
  | @more middle outer within clear inside layer ih =>
    cases here : clear with
    | false => exact layer.core?_hidden here
    | true =>
      rw [layer.core?_clear here inside.isNamed]
      rw [here, Bool.and_true] at hidden
      exact ih hidden

theorem Layers.chainOf?_eq (layers : Layers inner outer clear) (named : inner.isNamed = true) :
    chainOf? outer = if clear then chainOf? inner else none := by
  cases isClear : clear with
  | true => rw [Recognizer.chainOf?_eq, layers.core?_clear isClear named, if_pos rfl, Recognizer.chainOf?_eq]
  | false =>
    obtain ⟨found, under, kind⟩ := layers.core?_hidden isClear
    rw [Recognizer.chainOf?_eq, under, Option.bind_some, if_neg Bool.false_ne_true]
    by_contra holds
    obtain ⟨chain, holds⟩ := Option.ne_none_iff_exists'.mp holds
    have member := (of_accessChain? holds).1
    rcases kind with kind | kind <;> cases member.symm.trans kind

end Layers

end EnvAudit.Usage.Recognizer
