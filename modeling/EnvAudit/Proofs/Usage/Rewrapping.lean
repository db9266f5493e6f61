import EnvAudit.Proofs.Usage.Layers

/-! Trees where the objects that hold variables stand in layers. What is asked of a node gets the same answer in both
trees: its kind, the expression under it, the object that it is, the names that it gives. Only the node that takes from
an object in a layer that is not clear finds no object any more. -/
namespace EnvAudit.Usage.Recognizer
open Script

mutual

/-- Whether a tree is another one where objects that hold variables stand in layers, wherever the nodes of both lie.
The reads are listed whose objects stand in layers that are not clear. -/
inductive Rewraps : Node → Node → List Node → Prop
  | token {kind : Kind} {role role' : Option Role} {start start' stop stop' : Place} {text : List Char} :
      Rewraps (.mk kind role start stop text []) (.mk kind role' start' stop' text []) []
  | composite {kind : Kind} {role role' : Option Role} {start start' stop stop' : Place} {text : List Char}
      {parts parts' lost : List Node} (composite : kind.isComposite = true) (inside : RewrapsAll parts parts' lost) :
      Rewraps (.mk kind role start stop text parts) (.mk kind role' start' stop' text parts') lost
  | read {kind : Kind} {role role' : Option Role} {start start' stop stop' : Place} {text : List Char}
      {front front' back back' lost lost' lost'' : List Node} {object inner outer : Node} {source : Role}
      {chain : Chain} {clear : Bool} (takes : sourceRole? kind = some source) (first : ∀ part ∈ front, part.role ≠ some source)
      (plays : object.role = some source ∧ outer.role = some source) (holds : chainOf? object = some chain)
      (layers : Layers inner outer clear) (before : RewrapsAll front front' lost) (inside : Rewraps object inner lost')
      (after : RewrapsAll back back' lost'') :
      Rewraps (.mk kind role start stop text (front ++ object :: back))
        (.mk kind role' start' stop' text (front' ++ outer :: back'))
        ((if clear then [] else [.mk kind role start stop text (front ++ object :: back)]) ++
          (lost ++ (lost' ++ lost'')))

inductive RewrapsAll : List Node → List Node → List Node → Prop
  | nil : RewrapsAll [] [] []
  | cons {part part' : Node} {rest rest' lost lost' : List Node} (role : part'.role = part.role)
      (first : Rewraps part part' lost) (others : RewrapsAll rest rest' lost') :
      RewrapsAll (part :: rest) (part' :: rest') (lost ++ lost')

end

def Rewrapped (node node' : Node) : Prop := ∃ lost, Rewraps node node' lost

variable {node node' inner outer object found : Node} {parts parts' lost : List Node} {clear : Bool} {chain : Chain}

theorem Rewraps.kind (rewraps : Rewraps node node' lost) : node'.kind = node.kind := by
  cases rewraps <;> rfl

theorem Rewraps.text (rewraps : Rewraps node node' lost) : node'.text = node.text := by
  cases rewraps <;> rfl

theorem Rewraps.tokens_eq (rewraps : Rewraps node node' lost) (token : node.kind.isComposite = false) :
    node'.tokens = node.tokens := by
  cases rewraps with
  | token => rfl
  | composite composite => cases token.symm.trans composite
  | read takes => cases token.symm.trans (isComposite_of_sourceRole? takes)

section Congruence
variable {source : Role}

theorem RewrapsAll.find? {p : Node → Bool} (same : ∀ node node' : Node, node'.kind = node.kind →
    node'.role = node.role → p node' = p node) : ∀ {parts parts' lost : List Node}, RewrapsAll parts parts' lost →
    Option.Rel Rewrapped (parts.find? p) (parts'.find? p)
  | _, _, _, .nil => .none
  | _, _, _, @RewrapsAll.cons part part' _ _ lost _ role first others => by
    rw [List.find?_cons, List.find?_cons, same part part' first.kind role]
    cases p part with
    | true => exact .some ⟨lost, first⟩
    | false => exact others.find? same

theorem RewrapsAll.find?_role (role : Role) (all : RewrapsAll parts parts' lost) :
    Option.Rel Rewrapped (parts.find? (·.role == some role)) (parts'.find? (·.role == some role)) :=
  all.find? fun node node' _ same => by rw [same]

theorem rel_or {r : Node → Node → Prop} {first first' second second' : Option Node} (front : Option.Rel r first first')
    (back : Option.Rel r second second') : Option.Rel r (first.or second) (first'.or second') := by
  cases front with
  | none => exact back
  | some related => exact .some related

theorem Rewraps.part? (rewraps : Rewraps node node' lost) (role : Role) (other : sourceRole? node.kind ≠ some role) :
    Option.Rel Rewrapped (node.part? role) (node'.part? role) := by
  cases rewraps with
  | token => exact .none
  | composite _ inside => exact inside.find?_role role
  | @read _ _ _ _ _ _ _ _ front front' back back' _ _ _ object _ outer source _ _ takes _ plays _ _ before _ after =>
    have differs : source ≠ role := fun same => other (same ▸ takes)
    have passed {part : Node} (plays : part.role = some source) : (part.role == some role) = false := by
      simp [plays, differs]
    simp only [Node.part?, Node.parts, List.find?_append, List.find?_cons, passed plays.1, passed plays.2]
    exact rel_or (before.find?_role role) (after.find?_role role)

theorem part?_of_front {kind : Kind} {role : Option Role} {start stop : Place} {text : List Char}
    {front back : List Node} (first : ∀ part ∈ front, part.role ≠ some source) (plays : object.role = some source) :
    (Node.mk kind role start stop text (front ++ object :: back)).part? source = some object := by
  have passed : front.find? (·.role == some source) = none := by simpa using first
  rw [Node.part?, Node.parts, List.find?_append, passed, Option.none_or, List.find?_cons, plays]
  simp

theorem RewrapsAll.role_ne : ∀ {parts parts' lost}, RewrapsAll parts parts' lost →
    (∀ part ∈ parts, part.role ≠ some source) → ∀ part ∈ parts', part.role ≠ some source
  | _, _, _, .nil, _ => nofun
  | _, _, _, .cons role _ others, others' => by
    obtain ⟨here, rest⟩ := List.forall_mem_cons.mp others'
    exact List.forall_mem_cons.mpr ⟨role ▸ here, others.role_ne rest⟩

theorem Rewraps.object? (rewraps : Rewraps node node' lost) {source : Role}
    (takes : sourceRole? node.kind = some source) :
    Option.Rel Rewrapped (node.part? source) (node'.part? source) ∨
      ∃ object inner outer chain clear, node.part? source = some object ∧ node'.part? source = some outer ∧
        chainOf? object = some chain ∧ Layers inner outer clear ∧ Rewrapped object inner := by
  cases rewraps with
  | token => exact .inl .none
  | composite _ inside => exact .inl (inside.find?_role source)
  | @read _ _ _ _ _ _ _ _ _ _ _ _ _ _ _ object inner outer _ chain clear takes' first plays holds layers before inside =>
    cases takes.symm.trans takes'
    exact .inr ⟨object, inner, outer, chain, clear, part?_of_front first plays.1,
      part?_of_front (before.role_ne first) plays.2, holds, layers, ⟨_, inside⟩⟩

theorem core?_of_sourceRole? {kind : Kind} {role : Option Role} {start stop : Place} {text : List Char}
    (takes : sourceRole? kind = some source) :
    core? (.mk kind role start stop text parts) = some (.mk kind role start stop text parts) := by
  apply core?_self
  cases kind <;> first | rfl | cases takes

mutual

theorem Rewraps.core? : ∀ {node node' lost}, Rewraps node node' lost →
    Option.Rel Rewrapped (core? node) (core? node')
  | .mk kind role start stop text parts, .mk _ role' start' stop' _ parts', _, .composite composite inside => by
    have same : isTransparent (.mk kind role' start' stop' text parts') =
      isTransparent (.mk kind role start stop text parts) := rfl
    rw [Recognizer.core?, Recognizer.core?, same]
    split
    · exact inside.coreOf?
    · exact .some ⟨_, .composite composite inside⟩
  | .mk kind role start stop text _, .mk _ role' start' stop' _ _, _, .token => by
    have same : isTransparent (.mk kind role' start' stop' text []) =
      isTransparent (.mk kind role start stop text []) := rfl
    rw [Recognizer.core?, Recognizer.core?, same]
    split
    · exact .none
    · exact .some ⟨_, .token⟩
  | _, _, _, .read takes first plays holds layers before inside after => by
    rw [core?_of_sourceRole? takes, core?_of_sourceRole? takes]
    exact .some ⟨_, .read takes first plays holds layers before inside after⟩

theorem RewrapsAll.coreOf? : ∀ {parts parts' lost}, RewrapsAll parts parts' lost →
    Option.Rel Rewrapped (coreOf? parts) (coreOf? parts')
  | _, _, _, .nil => .none
  | _, _, _, @RewrapsAll.cons part part' _ _ _ _ role first others => by
    rw [Recognizer.coreOf?, Recognizer.coreOf?, Node.isNamed, Node.isNamed, first.kind]
    split
    · exact first.core?
    · exact others.coreOf?

end

mutual

theorem Rewraps.tokens : ∀ {node node' lost}, Rewraps node node' lost →
    node'.tokens = node.tokens ∨ 'v' ∈ node.tokens ∧ 'v' ∈ node'.tokens
  | _, _, _, .token => .inl rfl
  | _, _, _, .composite _ inside => by
    rw [Node.tokens, Node.tokens]
    rcases inside.tokensOf with same | ⟨here, there⟩
    · exact .inl (by rw [same])
    · exact .inr ⟨List.mem_append_right _ here, List.mem_append_right _ there⟩
  | _, _, _, @Rewraps.read _ _ _ _ _ _ _ _ _ _ _ _ _ _ _ object inner _ _ _ _ takes first plays holds layers before
      inside after => by
    obtain ⟨access, under, _, written⟩ := of_chainOf? holds
    have here : 'v' ∈ object.tokens := mem_tokens_core? under written
    have there : 'v' ∈ inner.tokens := by
      rcases inside.tokens with same | ⟨_, there⟩
      · rwa [same]
      · exact there
    exact .inr ⟨mem_tokens (List.mem_append_right _ List.mem_cons_self) here,
      mem_tokens (List.mem_append_right _ List.mem_cons_self) (layers.mem_tokens there)⟩

theorem RewrapsAll.tokensOf : ∀ {parts parts' lost}, RewrapsAll parts parts' lost →
    Node.tokensOf parts' = Node.tokensOf parts ∨ 'v' ∈ Node.tokensOf parts ∧ 'v' ∈ Node.tokensOf parts'
  | _, _, _, .nil => .inl rfl
  | _, _, _, .cons _ first others => by
    simp only [Node.tokensOf, List.mem_append]
    rcases first.tokens with same | ⟨here, there⟩
    · rcases others.tokensOf with same' | ⟨here, there⟩
      · exact .inl (by rw [same, same'])
      · exact .inr ⟨.inr here, .inr there⟩
    · exact .inr ⟨.inl here, .inl there⟩

end

theorem Rewraps.isWritten (rewraps : Rewraps node node' lost) {text : String} (plain : 'v' ∉ text.toList) :
    isWritten node' text = isWritten node text := by
  have differs {node : Node} (written : 'v' ∈ node.tokens) : Recognizer.isWritten node text = false := by
    rw [Recognizer.isWritten, beq_eq_false_iff_ne]
    rintro same
    exact plain (same ▸ written)
  rcases rewraps.tokens with same | ⟨here, there⟩
  · rw [Recognizer.isWritten, Recognizer.isWritten, same]
  · rw [differs here, differs there]

theorem Rewraps.isNameOf (rewraps : Rewraps node node' lost) {text : String} (plain : 'v' ∉ text.toList) :
    isNameOf text node' = isNameOf text node := by
  rw [Recognizer.isNameOf, Recognizer.isNameOf, rewraps.kind, rewraps.isWritten plain]

theorem Rewraps.isModuleInfo (rewraps : Rewraps node node' lost) : isModuleInfo node' = isModuleInfo node := by
  rw [Recognizer.isModuleInfo, Recognizer.isModuleInfo, rewraps.kind, rewraps.isWritten (by decide)]

theorem Rewraps.holderChain? (rewraps : Rewraps node node' lost) : holderChain? node' = holderChain? node := by
  rw [Recognizer.holderChain?, Recognizer.holderChain?, rewraps.isNameOf (by decide), rewraps.isModuleInfo]

theorem holderChain?_eq_none (member : node.kind = .member) (written : 'v' ∈ node.tokens) :
    holderChain? node = none := by
  have info : isModuleInfo node = false := by
    have differs : node.tokens ≠ "import.meta".toList := by
      intro same
      rw [same] at written
      revert written
      decide
    rw [Recognizer.isModuleInfo, Recognizer.isWritten, beq_eq_false_iff_ne.mpr differs, Bool.and_false]
  simp [Recognizer.holderChain?, Recognizer.isNameOf, member, info]

theorem bind_eq_of_rel {β : Type} {f : Node → Option β} {first first' : Option Node}
    (related : Option.Rel Rewrapped first first') (same : ∀ node node', Rewrapped node node' → f node' = f node) :
    first'.bind f = first.bind f := by
  cases related with
  | none => rfl
  | some related => exact same _ _ related

theorem rel_core? {first first' : Option Node} (related : Option.Rel Rewrapped first first') :
    Option.Rel Rewrapped (first.bind Recognizer.core?) (first'.bind Recognizer.core?) := by
  cases related with
  | none => exact .none
  | some related => exact related.choose_spec.core?

theorem Rewraps.corePart? (rewraps : Rewraps node node' lost) (role : Role)
    (other : sourceRole? node.kind ≠ some role) :
    Option.Rel Rewrapped (corePart? role node) (corePart? role node') := rel_core? (rewraps.part? role other)

theorem isNamed_of_chainOf? (holds : chainOf? object = some chain) : object.isNamed = true := by
  obtain ⟨access, under, member, _⟩ := of_chainOf? holds
  by_contra mark
  have kind : object.kind = .mark := by simpa [Node.isNamed] using mark
  rw [core?_self (by simp [isTransparent, kind])] at under
  cases under
  cases member.symm.trans kind

theorem Layers.no_holder (layers : Layers inner outer clear) (holds : chainOf? object = some chain)
    (inside : Rewrapped object inner) :
    ((Recognizer.core? object).bind Recognizer.holderChain?) = none ∧
      ((Recognizer.core? outer).bind Recognizer.holderChain?) = none := by
  obtain ⟨lost, inside⟩ := inside
  obtain ⟨access, under, member, written⟩ := of_chainOf? holds
  refine ⟨by rw [under, Option.bind_some, holderChain?_eq_none member written], ?_⟩
  cases isClear : clear with
  | true =>
    have named : inner.isNamed = true := by
      rw [Node.isNamed, inside.kind]
      exact isNamed_of_chainOf? holds
    rw [layers.core?_clear isClear named]
    have related := inside.core?
    rw [under] at related
    generalize Recognizer.core? inner = found at related
    cases related with
    | some related =>
      obtain ⟨lost, related⟩ := related
      refine holderChain?_eq_none (related.kind.trans member) ?_
      rcases related.tokens with same | ⟨_, there⟩
      · rwa [same]
      · exact there
  | false =>
    obtain ⟨found, under, kind⟩ := layers.core?_hidden isClear
    rw [under, Option.bind_some]
    rcases kind with kind | kind <;>
      simp [Recognizer.holderChain?, Recognizer.isNameOf, Recognizer.isModuleInfo, kind]

theorem Rewraps.accessChain? (rewraps : Rewraps node node' lost) : accessChain? node' = accessChain? node := by
  by_cases member : node.kind = .member
  · have property := rewraps.part? .property (by rw [member]; decide)
    have takes : sourceRole? node.kind = some .object := by rw [member]; rfl
    have holder : (Recognizer.corePart? .object node').bind Recognizer.holderChain? =
        (Recognizer.corePart? .object node).bind Recognizer.holderChain? := by
      rcases rewraps.object? takes with related |
        ⟨object, inner, outer, chain, clear, part, part', holds, layers, inside⟩
      · exact bind_eq_of_rel (rel_core? related) fun _ _ related => related.choose_spec.holderChain?
      · obtain ⟨here, there⟩ := layers.no_holder holds inside
        rw [Recognizer.corePart?, part', Option.bind_some, there, Recognizer.corePart?, part, Option.bind_some, here]
    rw [Recognizer.accessChain?, Recognizer.accessChain?, rewraps.kind, holder]
    refine bind_eq_of_rel property fun part part' ⟨lost, related⟩ => ?_
    by_cases named : part.kind = .propertyName
    · rw [Recognizer.isWritten, Recognizer.isWritten, related.kind, related.tokens_eq (by rw [named])]
    · have other : (part.kind != .propertyName) = true := bne_iff_ne.mpr named
      rw [related.kind, other, Bool.or_true, Bool.true_or, Bool.true_or]
  · have nothing (node : Node) (other : node.kind ≠ .member) : Recognizer.accessChain? node = none := by
      rw [Recognizer.accessChain?]
      cases node.part? .property <;> simp [other]
    rw [nothing node member, nothing node' (by rwa [rewraps.kind])]

theorem Rewraps.chainOf? (rewraps : Rewraps node node' lost) : chainOf? node' = chainOf? node := by
  rw [chainOf?_eq, chainOf?_eq]
  exact bind_eq_of_rel rewraps.core? fun _ _ related => related.choose_spec.accessChain?

theorem RewrapsAll.partsText (all : RewrapsAll parts parts' lost) : partsText parts' = partsText parts := by
  induction parts generalizing parts' lost with
  | nil =>
    cases all
    rfl
  | cons part rest ih =>
    cases all with
    | @cons _ part' _ _ _ _ role first others =>
      have head : partText part' = partText part := by rw [partText, partText, first.kind, first.text]
      rw [Script.partsText, Script.partsText, head, ih others]

theorem Rewraps.literalValue? (rewraps : Rewraps node node' lost) : literalValue? node' = literalValue? node := by
  cases rewraps with
  | token => rfl
  | composite _ inside =>
    rw [Script.literalValue?, Script.literalValue?, Node.parts, Node.parts, inside.partsText]
    rfl
  | @read kind _ _ _ _ _ _ _ _ _ _ _ _ _ _ _ _ _ _ _ _ takes =>
    cases kind <;> first | rfl | cases takes

end Congruence

section Reads

theorem Rewraps.indexName? (rewraps : Rewraps node node' lost) (kind : node.kind = .subscript) :
    indexName? node' = indexName? node := by
  have related := rewraps.corePart? .index (by rw [kind]; decide)
  rw [Recognizer.indexName?, Recognizer.indexName?]
  generalize Recognizer.corePart? Role.index node = index at related ⊢
  generalize Recognizer.corePart? Role.index node' = index' at related ⊢
  cases related with
  | none => rfl
  | some related => exact related.choose_spec.literalValue?

theorem Rewraps.memberReads (rewraps : Rewraps node node' lost) (kind : node.kind = .member) :
    memberReads chain node' = memberReads chain node := by
  have related := rewraps.part? .property (by rw [kind]; decide)
  rw [Recognizer.memberReads, Recognizer.memberReads]
  generalize node.part? .property = property at related ⊢
  generalize node'.part? .property = property' at related ⊢
  cases related with
  | none => rfl
  | @some property property' related =>
    obtain ⟨lost, related⟩ := related
    dsimp only
    rw [related.kind]
    split
    · rfl
    · next named =>
      have kind : property.kind = .propertyName := by simpa using named
      rw [related.tokens_eq (by rw [kind])]

theorem isComposite_of_keyOf? {entry key : Node} (given : keyOf? entry = some key) :
    key.kind = .string ∨ key.kind.isComposite = false := by
  rw [keyOf?] at given
  split at given
  · next kind =>
    cases given
    exact .inr (by rw [kind])
  · obtain ⟨_, kind⟩ := Option.filter_eq_some_iff.mp given
    rcases Bool.or_eq_true_iff.mp kind with name | string
    · exact .inr (by rw [beq_iff_eq.mp name])
    · exact .inl (beq_iff_eq.mp string)
  · obtain ⟨_, kind⟩ := Option.filter_eq_some_iff.mp given
    exact .inr (by rw [beq_iff_eq.mp kind])
  · cases given

theorem rel_filter {p : Node → Bool} {first first' : Option Node} (related : Option.Rel Rewrapped first first')
    (same : ∀ node node' : Node, node'.kind = node.kind → p node' = p node) :
    Option.Rel Rewrapped (first.filter p) (first'.filter p) := by
  cases related with
  | none => exact .none
  | @some node node' related =>
    rw [Option.filter_some, Option.filter_some, same node node' related.choose_spec.kind]
    split
    · exact .some related
    · exact .none

theorem Rewraps.keyOf? (rewraps : Rewraps node node' lost) : Option.Rel Rewrapped (keyOf? node) (keyOf? node') := by
  rw [Recognizer.keyOf?, Recognizer.keyOf?, rewraps.kind]
  split
  · exact .some ⟨lost, rewraps⟩
  · next kind =>
    exact rel_filter (rewraps.part? _ (by rw [kind]; decide)) fun node node' same => by rw [same]
  · next kind =>
    exact rel_filter (rewraps.part? _ (by rw [kind]; decide)) fun node node' same => by rw [same]
  · exact .none

theorem Rewraps.entryName? (rewraps : Rewraps node node' lost) : entryName? node' = entryName? node := by
  have related := rewraps.keyOf?
  rw [Recognizer.entryName?, Recognizer.entryName?]
  have tokens (key : Node) (given : Recognizer.keyOf? node = some key) := isComposite_of_keyOf? given
  generalize Recognizer.keyOf? node = key at related tokens ⊢
  generalize Recognizer.keyOf? node' = key' at related ⊢
  cases related with
  | none => rfl
  | @some key key' related =>
    obtain ⟨lost, related⟩ := related
    dsimp only
    rw [related.kind, related.literalValue?]
    split
    · rfl
    · next plain =>
      rcases tokens key rfl with string | token
      · exact absurd (beq_iff_eq.mpr string) plain
      · rw [related.tokens_eq token]

theorem RewrapsAll.patternRead (all : RewrapsAll parts parts' lost) :
    (parts'.filter Node.isNamed).mapM (patternRead chain) = (parts.filter Node.isNamed).mapM (patternRead chain) := by
  induction parts generalizing parts' lost with
  | nil =>
    cases all
    rfl
  | cons part rest ih =>
    cases all with
    | @cons _ part' _ _ _ _ role first others =>
      have named : part'.isNamed = part.isNamed := by rw [Node.isNamed, Node.isNamed, first.kind]
      rw [List.filter_cons, List.filter_cons, named]
      split
      · rw [List.mapM_cons, List.mapM_cons, ih others, Recognizer.patternRead, Recognizer.patternRead, first.entryName?]
      · exact ih others

theorem Rewraps.patternReads (rewraps : Rewraps node node' lost) (kind : node.kind = .declarator) :
    patternReads chain node' = patternReads chain node := by
  have related := rewraps.part? .name (by rw [kind]; decide)
  rw [Recognizer.patternReads, Recognizer.patternReads]
  generalize node.part? .name = pattern at related ⊢
  generalize node'.part? .name = pattern' at related ⊢
  cases related with
  | none => rfl
  | @some pattern pattern' related =>
    obtain ⟨lost, related⟩ := related
    dsimp only
    rw [related.kind]
    split
    · rfl
    · next object =>
      have entries : pattern'.namedParts.mapM (Recognizer.patternRead chain) =
          pattern.namedParts.mapM (Recognizer.patternRead chain) := by
        cases related with
        | token => rfl
        | composite _ inside => exact inside.patternRead
        | @read kind _ _ _ _ _ _ _ _ _ _ _ _ _ _ _ _ _ _ _ _ takes =>
          have pattern : kind = .objectPattern := by simpa [Node.kind] using object
          rw [pattern] at takes
          cases takes
      rw [entries]

theorem Rewraps.readsFrom (rewraps : Rewraps node node' lost) (chain : Option Chain) :
    readsFrom chain node' = readsFrom chain node := by
  rw [Recognizer.readsFrom, Recognizer.readsFrom, rewraps.kind]
  split
  · next kind => cases chain <;> simp [rewraps.memberReads kind]
  · next kind => rw [rewraps.indexName? kind]
  · next kind => cases chain <;> simp [rewraps.patternReads kind]
  · rfl

theorem sourceChain?_of_parts (kind : node'.kind = node.kind)
    (same : ∀ source, sourceRole? node.kind = some source →
      Option.Rel Rewrapped (node.part? source) (node'.part? source)) : sourceChain? node' = sourceChain? node := by
  unfold sourceChain?
  rw [kind]
  cases takes : sourceRole? node.kind with
  | none => rfl
  | some source => exact bind_eq_of_rel (same source takes) fun _ _ related => related.choose_spec.chainOf?

theorem sourceChain?_eq_some : sourceChain? node = some chain ↔
    ∃ source object, sourceRole? node.kind = some source ∧ node.part? source = some object ∧
      chainOf? object = some chain := by
  simp [sourceChain?, Option.bind_eq_some_iff]

/-- A node whose object stands in layers takes from it as before if they are clear, and from nothing if not. -/
theorem sourceChain?_of_layers {kind : Kind} {role : Option Role} {start stop : Place} {text : List Char}
    {front back : List Node} {source : Role} (takes : sourceRole? kind = some source)
    (first : ∀ part ∈ front, part.role ≠ some source) (plays : outer.role = some source)
    (holds : chainOf? object = some chain) (layers : Layers inner outer clear) (inside : Rewraps object inner lost) :
    sourceChain? (.mk kind role start stop text (front ++ outer :: back)) = if clear then some chain else none := by
  have named : inner.isNamed = true := by
    rw [Node.isNamed, inside.kind]
    exact isNamed_of_chainOf? holds
  have found := layers.chainOf?_eq named
  rw [inside.chainOf?, holds] at found
  rw [← found]
  simp [sourceChain?, Node.kind, takes, part?_of_front first plays]

theorem readsFrom_none {reads : List Read} {chain : Option Chain} (given : readsFrom chain node = .ok reads) :
    readsFrom none node = .ok [] := by
  rw [readsFrom] at given ⊢
  split at given
  · rfl
  · obtain ⟨name, found, _⟩ := Outcome.bind_eq_ok.mp given
    rw [found]
    rfl
  · rfl
  · rfl

end Reads

end EnvAudit.Usage.Recognizer
