import EnvAudit.Proofs.Script.Walk
import EnvAudit.Proofs.Usage.Surroundings

/-! Scans of sources where objects that hold variables stand in layers. The cursor meets the nodes of both trees in the
same order, apart from those that belong to the layers, and these read nothing. So the same names are read in the same
ways, but for the objects that are not found under their layers. -/
namespace EnvAudit.Usage
open Script

namespace Recognizer

/-- Whether the nodes of some cursors read one by one what those of others do, apart from nodes that read nothing and
from the nodes that are listed, which read nothing any more. -/
inductive Aligned : List Node → List Cursor → List Cursor → Prop
  | nil : Aligned [] [] []
  | pair {lost : List Node} {c c' : Cursor} {rest rest' : List Cursor} (reads : readsAt c'.node = readsAt c.node)
      (shapes : ∀ reads, readsAt c.node = .ok reads → reads.any Read.isShaped →
        (Returns (shapeOf? c) ↔ Returns (shapeOf? c')))
      (others : Aligned lost rest rest') : Aligned lost (c :: rest) (c' :: rest')
  | gone {lost : List Node} {c c' : Cursor} {rest rest' : List Cursor}
      (reads : ∀ reads, readsAt c.node = .ok reads → readsAt c'.node = .ok [])
      (others : Aligned lost rest rest') : Aligned (c.node :: lost) (c :: rest) (c' :: rest')
  | added {lost : List Node} {c : Cursor} {rest rest' : List Cursor} (nothing : readsAt c.node = .ok [])
      (others : Aligned lost rest rest') : Aligned lost rest (c :: rest')

theorem Aligned.append {lost lost' : List Node} {first first' second second' : List Cursor}
    (front : Aligned lost first first') (back : Aligned lost' second second') :
    Aligned (lost ++ lost') (first ++ second) (first' ++ second') := by
  induction front with
  | nil => exact back
  | pair reads shapes _ ih => exact .pair reads shapes ih
  | gone reads _ ih => exact .gone reads ih
  | added nothing _ ih => exact .added nothing ih

theorem aligned_of_silent {cursors : List Cursor} (silent : ∀ c ∈ cursors, readsAt c.node = .ok []) :
    Aligned [] [] cursors := by
  induction cursors with
  | nil => exact .nil
  | cons c rest ih =>
    obtain ⟨first, others⟩ := List.forall_mem_cons.mp silent
    exact .added first (ih others)

mutual

theorem mem_preorder_of_visits : ∀ {node : Node} {way : List Turn} {c : Cursor}, c ∈ Cursor.visits node way →
    c.node ∈ node.preorder
  | .mk kind role start stop text parts, way, c, member => by
    rw [Cursor.visits] at member
    rw [Node.preorder]
    rcases List.mem_append.mp member with here | below
    · refine List.mem_append_left _ ?_
      split at here
      · next named =>
        rw [List.mem_singleton.mp here, if_pos named]
        exact List.mem_singleton_self _
      · cases here
    · exact List.mem_append_right _ (mem_preorderOf_of_visitsOf below)

theorem mem_preorderOf_of_visitsOf : ∀ {parts : List Node} {parent : Node} {way : List Turn} {before : List Node}
    {c : Cursor}, c ∈ Cursor.visitsOf parent way before parts → c.node ∈ Node.preorderOf parts
  | part :: rest, parent, way, before, c, member => by
    rw [Cursor.visitsOf] at member
    rw [Node.preorderOf]
    rcases List.mem_append.mp member with here | later
    · exact List.mem_append_left _ (mem_preorder_of_visits here)
    · exact List.mem_append_right _ (mem_preorderOf_of_visitsOf later)

end

theorem IsSilent.aligned {part : Node} (silent : IsSilent part) (way : List Turn) :
    Aligned [] [] (Cursor.visits part way) :=
  aligned_of_silent fun c member => silent c.node (mem_preorder_of_visits member)

variable {source source' : List Char} {node node' parent inner outer : Node}
  {parts parts' rest rest' lost lost' : List Node} {way way' : List Turn} {cursors : List Cursor} {clear : Bool}

theorem aligned_visitsOf_append {front : List Node} (silent : ∀ part ∈ front, IsSilent part)
    (later : ∀ before, Aligned lost cursors (Cursor.visitsOf parent way before rest)) (before : List Node) :
    Aligned lost cursors (Cursor.visitsOf parent way before (front ++ rest)) := by
  induction front generalizing before with
  | nil => exact later before
  | cons part front ih =>
    obtain ⟨first, others⟩ := List.forall_mem_cons.mp silent
    exact (first.aligned _).append (ih others (part :: before))

theorem aligned_visitsOf_silent {back : List Node} (silent : ∀ part ∈ back, IsSilent part) (before : List Node) :
    Aligned [] [] (Cursor.visitsOf parent way before back) := by
  have all : Aligned [] [] (Cursor.visitsOf parent way before (back ++ [])) :=
    aligned_visitsOf_append silent (fun _ => .nil) before
  rwa [List.append_nil] at all

theorem readsAt_of_no_source (none : sourceRole? node.kind = none) : readsAt node = .ok [] := by
  rw [readsAt, readsFrom]
  split
  iterate 3
    · next kind =>
      rw [kind] at none
      cases none
  · rfl

theorem isSilent_token {kind : Kind} {role : Option Role} {start stop : Place} {text : List Char}
    (token : kind.isComposite = false) : IsSilent (.mk kind role start stop text []) := by
  intro inner member
  have source : sourceRole? kind = none := by
    cases takes : sourceRole? kind with
    | none => rfl
    | some source => cases token.symm.trans (isComposite_of_sourceRole? takes)
  rw [Node.preorder, Node.preorderOf, List.append_nil] at member
  split at member
  · rw [List.mem_singleton.mp member]
    exact readsAt_of_no_source source
  · cases member

theorem aligned_around {kind : Kind} {role : Option Role} {start stop : Place} {front back : List Node}
    (none : sourceRole? kind = none) (other : kind ≠ .binary) (silent : ∀ part ∈ front ++ back, IsSilent part)
    (inside : ∀ way, Quiet way → Aligned lost cursors (Cursor.visits inner way)) (quiet : Quiet way) :
    Aligned lost cursors (Cursor.visits (.mk kind role start stop [] (front ++ inner :: back)) way) := by
  obtain ⟨before, after⟩ := List.forall_mem_append.mp silent
  rw [Cursor.visits]
  have own : Aligned [] [] (if (Node.mk kind role start stop [] (front ++ inner :: back)).isNamed then
      [⟨.mk kind role start stop [] (front ++ inner :: back), way⟩] else []) := by
    refine aligned_of_silent fun c member => ?_
    split at member
    · rw [List.mem_singleton.mp member]
      exact readsAt_of_no_source none
    · cases member
  refine own.append (aligned_visitsOf_append before (fun above => ?_) [])
  have quiet : Quiet (⟨.mk kind role start stop [] (front ++ inner :: back), above, back⟩ :: way) := quiet.cons other
  have behind : Aligned [] []
      (Cursor.visitsOf (.mk kind role start stop [] (front ++ inner :: back)) way (inner :: above) back) :=
    aligned_visitsOf_silent after _
  have whole := (inside _ quiet).append behind
  rwa [List.append_nil, List.append_nil] at whole

theorem Layer.aligned (layer : Layer inner outer clear)
    (inside : ∀ way, Quiet way → Aligned lost cursors (Cursor.visits inner way)) (quiet : Quiet way) :
    Aligned lost cursors (Cursor.visits outer way) := by
  cases layer with
  | parenthesized _ _ silent => exact aligned_around rfl (by decide) silent inside quiet
  | nonNull silent => exact aligned_around rfl (by decide) silent inside quiet
  | asserted asserts silent =>
    rcases asserts with rfl | rfl
    · exact aligned_around rfl (by decide) silent inside quiet
    · exact aligned_around rfl (by decide) silent inside quiet
  | typed _ silent => exact aligned_around rfl (by decide) silent inside quiet

theorem Layers.aligned (layers : Layers inner outer clear)
    (inside : ∀ way, Quiet way → Aligned lost cursors (Cursor.visits inner way)) (quiet : Quiet way) :
    Aligned lost cursors (Cursor.visits outer way) := by
  induction layers generalizing way with
  | one layer => exact layer.aligned inside quiet
  | more _ layer ih => exact layer.aligned (fun _ quiet => ih quiet) quiet

theorem Layer.lies (layer : Layer inner outer clear) (lies : Lies source outer) : Lies source inner := by
  apply lies.part
  cases layer <;> exact List.mem_append_right _ List.mem_cons_self

theorem Layers.lies (layers : Layers inner outer clear) (lies : Lies source outer) : Lies source inner := by
  induction layers with
  | one layer => exact layer.lies lies
  | more _ layer ih => exact ih (layer.lies lies)

theorem readsAt_of_no_object (none : sourceChain? node = none) {reads : List Read} (given : readsAt node = .ok reads) :
    reads = [] := by
  rw [readsAt, none] at given
  exact Except.ok.inj (given.symm.trans (readsFrom_none given))

theorem isSolid_of_shaped {reads : List Read} (given : readsAt node = .ok reads) (shaped : reads.any Read.isShaped)
    (placed : Placed source node) : IsSolid node ∧ core? node = some node := by
  cases known : sourceChain? node with
  | none =>
    cases readsAt_of_no_object known given
    cases shaped
  | some chain =>
    obtain ⟨role, object, takes, part, holds⟩ := sourceChain?_eq_some.mp known
    obtain ⟨access, under, _, written⟩ := of_chainOf? holds
    have written := mem_tokens (List.mem_of_find?_eq_some part) (mem_tokens_core? under written)
    have inner : node.kind ≠ .construct := by
      intro kind
      rw [kind] at takes
      cases takes
    refine ⟨(placed.whole.resolve_left inner).start_lt_stop (List.ne_nil_of_mem written), ?_⟩
    obtain ⟨kind, _⟩ := node
    exact core?_of_sourceRole? takes

theorem shapes_of_alike (placed : Placed source node) (placed' : Placed source' node')
    (alike : Alike node node' way way') (same : readsAt node' = readsAt node) (reads : List Read) (given : readsAt node = .ok reads)
    (shaped : reads.any Read.isShaped) : Returns (shapeOf? ⟨node, way⟩) ↔ Returns (shapeOf? ⟨node', way'⟩) := by
  obtain ⟨solid, itself⟩ := isSolid_of_shaped given shaped placed
  obtain ⟨solid', itself'⟩ := isSolid_of_shaped (same.trans given) shaped placed'
  refine alike node node' ⟨solid, solid', Node.encloses_refl _, Node.encloses_refl _, ?_⟩
  intro found found' under under'
  cases itself.symm.trans under
  cases itself'.symm.trans under'
  rw [Node.encloses_refl, Node.encloses_refl]

theorem aligned_node {kind : Kind} {role role' : Option Role} {start start' stop stop' : Place} {text text' : List Char}
    (own : List Node)
    (head : (Node.mk kind role start stop text parts).isNamed = true →
      Aligned own [⟨.mk kind role start stop text parts, way⟩] [⟨.mk kind role' start' stop' text' parts', way'⟩])
    (mark : (Node.mk kind role start stop text parts).isNamed = false → own = [])
    (inside : Aligned lost (Cursor.visitsOf (.mk kind role start stop text parts) way [] parts)
      (Cursor.visitsOf (.mk kind role' start' stop' text' parts') way' [] parts')) :
    Aligned (own ++ lost) (Cursor.visits (.mk kind role start stop text parts) way)
      (Cursor.visits (.mk kind role' start' stop' text' parts') way') := by
  have same : (Node.mk kind role' start' stop' text' parts').isNamed =
      (Node.mk kind role start stop text parts).isNamed := rfl
  rw [Cursor.visits, Cursor.visits, same]
  refine Aligned.append ?_ inside
  cases named : (Node.mk kind role start stop text parts).isNamed with
  | true => exact head named
  | false =>
    rw [mark named]
    exact .nil

section Reads
variable {kind : Kind} {role role' : Option Role} {start start' stop stop' : Place} {text : List Char}
  {front front' back back' : List Node} {object : Node} {source : Role} {chain : Chain} {whole whole' : List Char}

theorem readsAt_of_parts
    (rewraps : Rewraps (.mk kind role start stop text parts) (.mk kind role' start' stop' text parts') lost)
    (same : ∀ source, Option.Rel Rewrapped (parts.find? (·.role == some source))
      (parts'.find? (·.role == some source))) :
    readsAt (.mk kind role' start' stop' text parts') = readsAt (.mk kind role start stop text parts) := by
  have object : sourceChain? (.mk kind role' start' stop' text parts') =
      sourceChain? (.mk kind role start stop text parts) := sourceChain?_of_parts rfl fun source _ => same source
  rw [readsAt, readsAt, object, rewraps.readsFrom]

/-- A node whose object stands in layers reads what it read if they are clear, and nothing if not. -/
theorem aligned_read (takes : sourceRole? kind = some source) (first : ∀ part ∈ front, part.role ≠ some source)
    (plays : object.role = some source ∧ outer.role = some source) (holds : chainOf? object = some chain)
    (layers : Layers inner outer clear) (before : RewrapsAll front front' lost) (inside : Rewraps object inner lost')
    (rewraps : Rewrapped (.mk kind role start stop text (front ++ object :: back))
      (.mk kind role' start' stop' text (front' ++ outer :: back')))
    (placed : Placed whole (.mk kind role start stop text (front ++ object :: back)))
    (placed' : Placed whole' (.mk kind role' start' stop' text (front' ++ outer :: back')))
    (alike : Alike (.mk kind role start stop text (front ++ object :: back))
      (.mk kind role' start' stop' text (front' ++ outer :: back')) way way') :
    Aligned (if clear then [] else [.mk kind role start stop text (front ++ object :: back)])
      [⟨.mk kind role start stop text (front ++ object :: back), way⟩]
      [⟨.mk kind role' start' stop' text (front' ++ outer :: back'), way'⟩] := by
  obtain ⟨_, rewraps⟩ := rewraps
  have here : sourceChain? (.mk kind role start stop text (front ++ object :: back)) = some chain :=
    sourceChain?_eq_some.mpr ⟨source, object, takes, part?_of_front first plays.1, holds⟩
  have there : sourceChain? (.mk kind role' start' stop' text (front' ++ outer :: back')) =
      if clear then some chain else none :=
    sourceChain?_of_layers takes (before.role_ne first) plays.2 holds layers inside
  cases clear with
  | true =>
    have same : readsAt (.mk kind role' start' stop' text (front' ++ outer :: back')) =
        readsAt (.mk kind role start stop text (front ++ object :: back)) := by
      rw [readsAt, readsAt, here, there, if_pos rfl, rewraps.readsFrom]
    exact .pair same (shapes_of_alike placed placed' alike same) .nil
  | false =>
    rw [if_neg Bool.false_ne_true]
    refine .gone (c := ⟨_, way⟩) (fun reads given => ?_) .nil
    rw [readsAt, here] at given
    rw [readsAt, there, if_neg Bool.false_ne_true, rewraps.readsFrom]
    exact readsFrom_none given

theorem forall_mem_split {p : Node → Prop} :
    (∀ part ∈ front ++ object :: back, p part) ↔ (∀ part ∈ front, p part) ∧ p object ∧ ∀ part ∈ back, p part := by
  rw [List.forall_mem_append, List.forall_mem_cons]

theorem context_of_takes (takes : sourceRole? kind = some source) (role : Option Role) (start stop : Place)
    (text : List Char) (parts : List Node) :
    passes (.mk kind role start stop text parts) = false ∧ (Node.mk kind role start stop text parts).isNamed = true ∧
      kind ≠ .binary := by
  cases kind <;> first | exact ⟨rfl, rfl, by decide⟩ | cases takes

theorem quiet_of_takes (takes : sourceRole? kind = some source) {above below : List Node} :
    Quiet (⟨.mk kind role start stop text parts, above, below⟩ :: way) :=
  have ⟨stops, _, other⟩ := context_of_takes takes role start stop text parts
  quiet_of_context stops other

end Reads

mutual

theorem Rewraps.aligned : ∀ {node node' lost}, Rewraps node node' lost → ∀ {way way'}, Placed source node →
    Placed source' node' → Alike node node' way way' →
    Aligned lost (Cursor.visits node way) (Cursor.visits node' way')
  | _, _, _, @Rewraps.token kind role role' start start' stop stop' text, way, way', placed, placed', alike => by
    have same := readsAt_of_parts (.token : Rewraps (.mk kind role start stop text [])
      (.mk kind role' start' stop' text []) []) fun _ => .none
    exact aligned_node [] (fun _ => .pair same (shapes_of_alike placed placed' alike same) .nil) (fun _ => rfl) .nil
  | .mk kind role start stop text parts, .mk _ role' start' stop' _ parts', lost, .composite composite inside, way,
      way', placed, placed', alike => by
    have rewraps : Rewraps (.mk kind role start stop text parts) (.mk kind role' start' stop' text parts') lost :=
      .composite composite inside
    have same := readsAt_of_parts rewraps inside.find?_role
    have below := inside.aligned [] [] placed.parts placed'.parts (fun matched => alike.inner rewraps placed placed' matched)
      (fun _ _ => .nil) [] []
    rw [List.append_nil, List.append_nil, List.append_nil] at below
    exact aligned_node [] (fun _ => .pair same (shapes_of_alike placed placed' alike same) .nil) (fun _ => rfl) below
  | _, _, _, @Rewraps.read kind role role' start start' stop stop' text front front' back back' lost lost' lost'' object
      inner outer source chain clear takes first plays holds layers before inside after, way, way', placed, placed',
      alike => by
    have head := aligned_read takes first plays holds layers before inside
      ⟨_, .read takes first plays holds layers before inside after⟩ placed placed' alike
    -- What a node takes from is in its own surroundings, and these expect no shape of a text.
    have quiet {part part' : Node} (above below above' below' : List Node) : Alike part part'
        (⟨.mk kind role start stop text (front ++ object :: back), above, below⟩ :: way)
        (⟨.mk kind role' start' stop' text (front' ++ outer :: back'), above', below'⟩ :: way') :=
      alike_of_quiet (quiet_of_takes takes) (quiet_of_takes takes)
    obtain ⟨lie_front, lies, lie_back⟩ := forall_mem_split.mp placed.parts
    obtain ⟨lie_front', lies', lie_back'⟩ := forall_mem_split.mp placed'.parts
    refine aligned_node _ (fun _ => head) (fun mark => ?_) ?_
    · rw [(context_of_takes takes role start stop text _).2.1] at mark
      cases mark
    refine before.aligned _ _ lie_front lie_front' (fun _ => quiet) (fun above above' => .append ?_ ?_) [] []
    · refine layers.aligned (fun way' inner_quiet => ?_) (quiet_of_takes takes)
      exact inside.aligned (placed_of_lies lies) (placed_of_lies (layers.lies lies'))
        (alike_of_quiet (quiet_of_takes takes) inner_quiet)
    · have behind := after.aligned [] [] lie_back lie_back' (fun _ => quiet) (fun _ _ => .nil) (object :: above)
        (outer :: above')
      rwa [List.append_nil, List.append_nil, List.append_nil] at behind

theorem RewrapsAll.aligned : ∀ {parts parts' lost}, RewrapsAll parts parts' lost →
    ∀ {parent parent' : Node} {way way' : List Turn} (rest rest' : List Node) {lost' : List Node},
    (∀ part ∈ parts, Lies source part) → (∀ part ∈ parts', Lies source' part) →
    (∀ {part part'}, Matched parts parts' part part' → ∀ above below above' below',
      Alike part part' (⟨parent, above, below⟩ :: way) (⟨parent', above', below'⟩ :: way')) →
    (∀ before before', Aligned lost' (Cursor.visitsOf parent way before rest)
      (Cursor.visitsOf parent' way' before' rest')) →
    ∀ before before', Aligned (lost ++ lost') (Cursor.visitsOf parent way before (parts ++ rest))
      (Cursor.visitsOf parent' way' before' (parts' ++ rest'))
  | _, _, _, .nil, parent, parent', way, way', rest, rest', lost', lie, lie', alike, later, before, before' =>
    later before before'
  | _, _, _, .cons role first others, parent, parent', way, way', rest, rest', lost', lie, lie', alike, later, before,
    before' => by
    obtain ⟨here, lie⟩ := List.forall_mem_cons.mp lie
    obtain ⟨here', lie'⟩ := List.forall_mem_cons.mp lie'
    rw [List.append_assoc]
    refine (first.aligned (placed_of_lies here) (placed_of_lies here') ?_).append
      (others.aligned rest rest' lie lie' (fun matched => alike (matched.cons role first)) later _ _)
    exact alike ⟨⟨[], _, [], _, [], rfl, rfl, .nil⟩, ⟨_, first⟩, role⟩ _ _ _ _

end

theorem told_eq_ok {site : Site} {c : Cursor} {shown : List (String × Access × Bool)} : told site c = .ok shown ↔
    ∃ reads, readsAt c.node = .ok reads ∧ (reads.any Read.isShaped = true → Returns (shapeOf? c)) ∧
      reads.map (Read.signature site) = shown := by
  rw [told, Outcome.bind_eq_ok]
  refine exists_congr fun reads => and_congr_right fun _ => ?_
  split
  · next shaped =>
    rw [Outcome.bind_eq_ok]
    constructor
    · rintro ⟨shape, found, same⟩
      exact ⟨fun _ => ⟨shape, found⟩, Except.ok.inj same⟩
    · rintro ⟨returns, same⟩
      obtain ⟨shape, found⟩ := returns shaped
      exact ⟨shape, found, congrArg _ same⟩
  · next plain =>
    constructor
    · intro same
      exact ⟨fun shaped => absurd shaped plain, Except.ok.inj same⟩
    · rintro ⟨_, same⟩
      exact congrArg _ same

theorem told_of_pair {site : Site} {c c' : Cursor} (same : readsAt c'.node = readsAt c.node)
    (shapes : ∀ reads, readsAt c.node = .ok reads → reads.any Read.isShaped →
      (Returns (shapeOf? c) ↔ Returns (shapeOf? c'))) {shown : List (String × Access × Bool)} :
    told site c' = .ok shown ↔ told site c = .ok shown := by
  rw [told_eq_ok, told_eq_ok, same]
  refine exists_congr fun reads => and_congr_right fun given => and_congr_left fun _ => ?_
  exact forall_congr' fun shaped => (shapes reads given shaped).symm

theorem told_of_nothing {site : Site} {c : Cursor} (nothing : readsAt c.node = .ok []) : told site c = .ok [] :=
  told_eq_ok.mpr ⟨[], nothing, nofun, rfl⟩

theorem Aligned.told {site : Site} {lost : List Node} {cursors cursors' : List Cursor}
    (aligned : Aligned lost cursors cursors') {lists : List (List (String × Access × Bool))}
    (given : cursors.mapM (told site) = .ok lists) :
    ∃ lists' hidden, cursors'.mapM (Recognizer.told site) = .ok lists' ∧ lost.mapM readsAt = .ok hidden ∧
      lists'.flatten.Sublist lists.flatten ∧
      lists.flatten.Perm (lists'.flatten ++ hidden.flatten.map (Read.signature site)) := by
  induction aligned generalizing lists with
  | nil =>
    cases given
    exact ⟨[], [], rfl, rfl, .refl _, .refl _⟩
  | pair same shapes _ ih =>
    obtain ⟨first, others, head, tail, rfl⟩ := Outcome.mapM_cons_eq_ok.mp given
    obtain ⟨others', hidden, tail', gone, sublist, perm⟩ := ih tail
    have head' := (told_of_pair same shapes).mpr head
    refine ⟨first :: others', hidden, Outcome.mapM_cons_eq_ok.mpr ⟨_, _, head', tail', rfl⟩, gone, ?_, ?_⟩
    · exact (List.Sublist.refl first).append sublist
    · rw [List.flatten_cons, List.flatten_cons, List.append_assoc]
      exact perm.append_left first
  | gone nothing _ ih =>
    obtain ⟨first, others, head, tail, rfl⟩ := Outcome.mapM_cons_eq_ok.mp given
    obtain ⟨others', hidden, tail', gone, sublist, perm⟩ := ih tail
    obtain ⟨reads, own, _, rfl⟩ := told_eq_ok.mp head
    refine ⟨[] :: others', reads :: hidden, Outcome.mapM_cons_eq_ok.mpr ⟨_, _, told_of_nothing (nothing _ own), tail', rfl⟩,
      Outcome.mapM_cons_eq_ok.mpr ⟨_, _, own, gone, rfl⟩, ?_, ?_⟩
    · exact sublist.trans (List.sublist_append_right _ _)
    · rw [List.flatten_cons, List.flatten_cons, List.flatten_cons, List.map_append, List.nil_append]
      exact (perm.append_left _).trans (List.perm_append_comm_assoc ..)
  | added nothing _ ih =>
    obtain ⟨others', hidden, tail', gone, sublist, perm⟩ := ih given
    exact ⟨[] :: others', hidden, Outcome.mapM_cons_eq_ok.mpr ⟨_, _, told_of_nothing nothing, tail', rfl⟩, gone, sublist, perm⟩

/-- Where no node is listed, and the reads of the others are told, those of the first are. -/
theorem Aligned.told_back {site : Site} {lost : List Node} {cursors cursors' : List Cursor}
    (aligned : Aligned lost cursors cursors') (kept : lost = []) {lists' : List (List (String × Access × Bool))}
    (given : cursors'.mapM (Recognizer.told site) = .ok lists') : Returns (cursors.mapM (Recognizer.told site)) := by
  induction aligned generalizing lists' with
  | nil => exact Outcome.returns_ok _
  | pair same shapes _ ih =>
    obtain ⟨first, others, head, tail, rfl⟩ := Outcome.mapM_cons_eq_ok.mp given
    obtain ⟨others, tail⟩ := ih kept tail
    exact ⟨_, Outcome.mapM_cons_eq_ok.mpr ⟨_, _, (told_of_pair same shapes).mp head, tail, rfl⟩⟩
  | gone => cases kept
  | added _ _ ih =>
    obtain ⟨first, others, head, tail, rfl⟩ := Outcome.mapM_cons_eq_ok.mp given
    exact ih kept tail

theorem usages_told (site : Site) (tree : Node) :
    List.map signature <$> usages site tree = List.flatten <$> (Cursor.visits tree []).mapM (told site) := by
  have each : (fun c => List.map signature <$> usagesAt site c) = told site := funext fun _ => usagesAt_told
  rw [← Cursor.walk_eq_visits, ← each, Outcome.mapM_map, usages]
  simp only [bind_pure_comp, Functor.map_map, List.map_flatten]

end Recognizer

/-- What is told of the reads in a source, apart from their places and their shapes. -/
def tells (site : Site) (source : String) : Except Failure (List (String × Access × Bool)) :=
  List.map signature <$> ofSource site source

variable {site : Site} {source source' : String} {tree tree' : Node} {lost : List Node}

theorem tells_eq_ok (parsed : Script.parse (.ofPath site.file) source.toList = some tree)
    {shown : List (String × Access × Bool)} : tells site source = .ok shown ↔
      ∃ lists, (Cursor.visits tree []).mapM (Recognizer.told site) = .ok lists ∧ lists.flatten = shown := by
  rw [tells, ofSource, parsed, ofTree, Recognizer.usages_told]
  cases (Cursor.visits tree []).mapM (Recognizer.told site) <;> simp [Functor.map, Except.map]

theorem placed_of_parse (parsed : Script.parse (.ofPath site.file) source.toList = some tree) :
    Recognizer.Placed source.toList tree :=
  ⟨fun _ member => parse_parts_lie parsed member, .inl (kind_of_parse parsed)⟩

/-- An object that holds variables may stand in parentheses, before an exclamation mark or a type, in any number of such
layers and in any number of places. The same names are read in the same ways from a source whether it does or not, and a
scan of one of the sources fails if that of the other does. Only where a comment is the first thing in the parentheses,
or a type is asserted in angle brackets, what is read from the object there is lost, and nothing else is. -/
theorem tells_wrapped (site : Site) (parsed : Script.parse (.ofPath site.file) source.toList = some tree)
    (parsed' : Script.parse (.ofPath site.file) source'.toList = some tree')
    (wrapped : Recognizer.Rewraps tree tree' lost) :
    (lost = [] → ∀ shown, tells site source' = .ok shown ↔ tells site source = .ok shown) ∧
      ∀ shown, tells site source = .ok shown → ∃ shown' hidden, tells site source' = .ok shown' ∧
        lost.mapM Recognizer.readsAt = .ok hidden ∧ shown'.Sublist shown ∧
        shown.Perm (shown' ++ hidden.flatten.map (Read.signature site)) := by
  have aligned := wrapped.aligned (placed_of_parse parsed) (placed_of_parse parsed')
    (Recognizer.alike_of_quiet Recognizer.quiet_nil Recognizer.quiet_nil)
  have forward (shown : List (String × Access × Bool)) (told : tells site source = .ok shown) :
      ∃ shown' hidden, tells site source' = .ok shown' ∧ lost.mapM Recognizer.readsAt = .ok hidden ∧
        shown'.Sublist shown ∧ shown.Perm (shown' ++ hidden.flatten.map (Read.signature site)) := by
    obtain ⟨lists, given, rfl⟩ := (tells_eq_ok parsed).mp told
    obtain ⟨lists', hidden, given', gone, sublist, perm⟩ := aligned.told given
    exact ⟨lists'.flatten, hidden, (tells_eq_ok parsed').mpr ⟨lists', given', rfl⟩, gone, sublist, perm⟩
  refine ⟨fun kept shown => ?_, forward⟩
  have keeps {shown : List (String × Access × Bool)} (told : tells site source = .ok shown) :
      tells site source' = .ok shown := by
    obtain ⟨shown', hidden, told', gone, sublist, perm⟩ := forward shown told
    rw [kept] at gone
    cases gone
    have same := sublist.eq_of_length (by simpa using perm.length_eq.symm)
    rwa [same] at told'
  constructor
  · intro told'
    obtain ⟨lists', given', rfl⟩ := (tells_eq_ok parsed').mp told'
    obtain ⟨lists, given⟩ := aligned.told_back kept given'
    have told := (tells_eq_ok parsed).mpr ⟨lists, given, rfl⟩
    rw [told]
    exact (keeps told).symm.trans told'
  · exact keeps

section Sample
open Recognizer

def tokenAt (kind : Kind) (role : Option Role) (column : Nat) (text : String) : Node :=
  .mk kind role ⟨column, 0, column⟩ ⟨column + text.length, 0, column + text.length⟩ text.toList []

def objectAt (role : Option Role) (column : Nat) : Node :=
  .mk .member role ⟨column, 0, column⟩ ⟨column + 11, 0, column + 11⟩ []
    [tokenAt .identifier (some .object) column "process", tokenAt .mark none (column + 7) ".",
      tokenAt .propertyName (some .property) (column + 8) "env"]

def markedObject : Node :=
  .mk .nonNull (some .object) ⟨0, 0, 0⟩ ⟨12, 0, 12⟩ [] ([] ++ objectAt none 0 :: ([] ++ [tokenAt .mark none 11 "!"]))

def commentedObject : Node :=
  .mk .parenthesized (some .object) ⟨15, 0, 15⟩ ⟨32, 0, 32⟩ []
    ((tokenAt .mark none 15 "(" :: [tokenAt .comment none 16 "/**/"]) ++
      objectAt none 20 :: ([] ++ [tokenAt .mark none 31 ")"]))

def readOf (object : Node) (name : String) : Node :=
  .mk .member none object.start ⟨object.stop.offset + 2, 0, object.stop.offset + 2⟩ []
    ([] ++ object :: [tokenAt .mark none object.stop.offset ".",
      tokenAt .propertyName (some .property) (object.stop.offset + 1) name])

def statementsOf (first second : Node) : Node :=
  .mk .construct none first.start second.stop [] [.mk .construct none first.start first.stop [] [first],
    tokenAt .mark none first.stop.offset ";", .mk .construct none second.start second.stop [] [second]]

theorem rewraps_objectAt (role role' : Option Role) (column column' : Nat) :
    Rewraps (objectAt role column) (objectAt role' column') [] :=
  have parts : RewrapsAll (objectAt role column).parts (objectAt role' column').parts ([] ++ ([] ++ ([] ++ []))) :=
    .cons rfl .token (.cons rfl .token (.cons rfl .token .nil))
  .composite rfl parts

theorem chainOf?_objectAt (role : Option Role) (column : Nat) : chainOf? (objectAt role column) = some .server :=
  rfl

theorem rewraps_readOf {object inner outer : Node} {clear : Bool} {name : String} {lost : List Node}
    (plays : object.role = some .object ∧ outer.role = some .object) (holds : chainOf? object = some .server)
    (layers : Layers inner outer clear) (inside : Rewraps object inner lost) :
    Rewraps (readOf object name) (readOf outer name) ((if clear then [] else [readOf object name]) ++ lost) := by
  have read : Rewraps (readOf object name) (readOf outer name)
      ((if clear then [] else [readOf object name]) ++ ([] ++ (lost ++ ([] ++ ([] ++ []))))) :=
    .read rfl nofun plays holds layers .nil inside (.cons rfl .token (.cons rfl .token .nil))
  simpa using read

theorem rewraps_statementsOf {first first' second second' : Node} {lost lost' : List Node}
    (head : Rewraps first first' lost) (last : Rewraps second second' lost') (role : first'.role = first.role)
    (role' : second'.role = second.role) :
    Rewraps (statementsOf first second) (statementsOf first' second') (lost ++ lost') := by
  have parts : RewrapsAll (statementsOf first second).parts (statementsOf first' second').parts
      ((lost ++ []) ++ ([] ++ ((lost' ++ []) ++ []))) :=
    .cons rfl (.composite rfl (.cons role head .nil))
      (.cons rfl .token (.cons rfl (.composite rfl (.cons role' last .nil)) .nil))
  rw [List.append_nil, List.append_nil, List.append_nil, List.nil_append] at parts
  exact .composite rfl parts

theorem layers_markedObject : Layers (objectAt none 0) markedObject true :=
  .one (.nonNull (List.forall_mem_singleton.mpr (isSilent_token rfl)))

theorem layers_commentedObject : Layers (objectAt none 20) commentedObject false := by
  refine .one (.parenthesized ⟨rfl, rfl⟩ (List.forall_mem_singleton.mpr rfl) ?_)
  rintro part (_ | ⟨_, _ | ⟨_, _ | ⟨_, ⟨⟩⟩⟩⟩) <;> exact isSilent_token rfl

theorem tells_wrapped_pair :
    tells ⟨"src/index.ts", .node⟩ "process.env.A;process.env.B" = .ok [("A", .direct, false), ("B", .direct, false)] ∧
      tells ⟨"src/index.ts", .node⟩ "process.env!.A;(/**/process.env).B" = .ok [("A", .direct, false)] := by
  have first : Rewraps (readOf (objectAt (some .object) 0) "A") (readOf markedObject "A") ([] ++ []) :=
    rewraps_readOf ⟨rfl, rfl⟩ (chainOf?_objectAt ..) layers_markedObject (rewraps_objectAt ..)
  have second : Rewraps (readOf (objectAt (some .object) 14) "B") (readOf commentedObject "B")
      ([readOf (objectAt (some .object) 14) "B"] ++ []) :=
    rewraps_readOf ⟨rfl, rfl⟩ (chainOf?_objectAt ..) layers_commentedObject (rewraps_objectAt ..)
  have parsed : Script.parse (.ofPath "src/index.ts") "process.env.A;process.env.B".toList =
      some (statementsOf (readOf (objectAt (some .object) 0) "A") (readOf (objectAt (some .object) 14) "B")) := by
    decide +kernel
  have parsed' : Script.parse (.ofPath "src/index.ts") "process.env!.A;(/**/process.env).B".toList =
      some (statementsOf (readOf markedObject "A") (readOf commentedObject "B")) := by
    decide +kernel
  have told : tells ⟨"src/index.ts", .node⟩ "process.env.A;process.env.B" =
      .ok [("A", .direct, false), ("B", .direct, false)] := Outcome.eq_ok_of_toOption (by decide +kernel)
  obtain ⟨shown, hidden, told', gone, -, perm⟩ :=
    (tells_wrapped ⟨"src/index.ts", .node⟩ parsed parsed' (rewraps_statementsOf first second rfl rfl)).2 _ told
  have own : [readOf (objectAt (some .object) 14) "B"].mapM readsAt = .ok [[⟨"B", .direct, .server⟩]] :=
    Outcome.eq_ok_of_toOption (by decide +kernel)
  cases own.symm.trans gone
  have signed : Read.signature ⟨"src/index.ts", .node⟩ ⟨"B", .direct, .server⟩ = ("B", .direct, false) := by
    decide +kernel
  rw [List.flatten_singleton, List.map_singleton, signed] at perm
  have rest : [("A", Access.direct, false)].Perm shown :=
    (List.perm_append_right_iff [("B", Access.direct, false)]).mp perm
  exact ⟨told, by rw [told', List.perm_singleton.mp rest.symm]⟩

end Sample

end EnvAudit.Usage
