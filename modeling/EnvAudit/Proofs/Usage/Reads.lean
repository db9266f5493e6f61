import EnvAudit.Proofs.Script.Quotation
import EnvAudit.Proofs.Script.Walk
import EnvAudit.Proofs.Usage.Recognition

/-! What a node reads, apart from where it stands. The node alone gives the names, how they are taken, and the object
that they are taken from. Its surroundings only give the shape that is expected of a value, and they can stop a scan. -/
namespace EnvAudit.Usage
open Script

structure Read where
  name : String
  access : Access
  chain : Chain
deriving Repr, DecidableEq

/-- What a usage tells apart from its place and its shape. -/
def signature (usage : Usage) : String × Access × Bool := (usage.name, usage.access, usage.isClientSide)

def Read.signature (site : Site) (read : Read) : String × Access × Bool :=
  (read.name, read.access, site.isClientSide read.chain read.name)

def Read.isShaped (read : Read) : Bool := read.access == .direct || read.access == .bracket

namespace Recognizer

def sourceRole? : Kind → Option Role
  | .member | .subscript => some .object
  | .declarator => some .value
  | _ => none

def sourceChain? (node : Node) : Option Chain := do (← node.part? (← sourceRole? node.kind)) |> chainOf?

def memberReads (chain : Chain) (node : Node) : List Read :=
  match node.part? .property with
  | some property => if property.kind != .propertyName then [] else [⟨String.ofList property.tokens, .direct, chain⟩]
  | none => []

def entryRead (chain : Chain) : Option String → Read
  | some name => ⟨name, .bracket, chain⟩
  | none => ⟨dynamicName, .dynamic, chain⟩

def patternRead (chain : Chain) (entry : Node) : Except Failure (List Read) := do
  match ← entryName? entry with
  | some name => return if name == "" then [] else [⟨name, .destructure, chain⟩]
  | none => return []

def patternReads (chain : Chain) (node : Node) : Except Failure (List Read) :=
  match node.part? .name with
  | some pattern =>
    if pattern.kind != .objectPattern then .ok []
    else do return (← pattern.namedParts.mapM (patternRead chain)).flatten
  | none => .ok []

def readsFrom (chain : Option Chain) (node : Node) : Except Failure (List Read) :=
  match node.kind with
  | .member => .ok (chain.elim [] fun chain => memberReads chain node)
  | .subscript => do
    let name ← indexName? node
    return chain.elim [] fun chain => [entryRead chain name]
  | .declarator => chain.elim (.ok []) fun chain => patternReads chain node
  | _ => .ok []

def readsAt (node : Node) : Except Failure (List Read) := readsFrom (sourceChain? node) node

variable {site : Site} {c : Cursor}

def told (site : Site) (c : Cursor) : Except Failure (List (String × Access × Bool)) := do
  let reads ← readsAt c.node
  if reads.any Read.isShaped then
    let _ ← shapeOf? c
    return reads.map (Read.signature site)
  else return reads.map (Read.signature site)

theorem ofMember_told (kind : c.node.kind = .member) : List.map signature <$> ofMember site c = told site c := by
  have source : sourceChain? c.node = objectChain? c.node := by simp [sourceChain?, kind, sourceRole?, objectChain?]
  rw [told, readsAt, readsFrom, kind, source, ofMember]
  cases objectChain? c.node with
  | none => rfl
  | some chain =>
    dsimp only [Option.elim, memberReads]
    cases c.node.part? .property with
    | none => rfl
    | some property =>
      dsimp only
      split
      · rfl
      · cases shapeOf? c <;> rfl

theorem ofSubscript_told (kind : c.node.kind = .subscript) :
    List.map signature <$> ofSubscript site c = told site c := by
  have source : sourceChain? c.node = objectChain? c.node := by simp [sourceChain?, kind, sourceRole?, objectChain?]
  rw [told, readsAt, readsFrom, kind, source, ofSubscript]
  cases indexName? c.node with
  | error failure => rfl
  | ok name =>
    cases objectChain? c.node with
    | none => cases name <;> rfl
    | some chain =>
      cases name with
      | none => rfl
      | some name => cases shapeOf? c <;> rfl

theorem ofEntry_told (site : Site) (chain : Chain) (entry : Node) :
    List.map signature <$> ofEntry site chain entry = List.map (Read.signature site) <$> patternRead chain entry := by
  rw [ofEntry, patternRead]
  cases entryName? entry with
  | error failure => rfl
  | ok name =>
    cases name with
    | none => rfl
    | some name =>
      dsimp only [bind, Except.bind]
      split <;> rfl

theorem ofEntries_told (site : Site) (chain : Chain) (entries : List Node) :
    (fun lists => lists.flatten.map signature) <$> entries.mapM (ofEntry site chain) =
      (fun lists => lists.flatten.map (Read.signature site)) <$> entries.mapM (patternRead chain) := by
  have each := congrArg (List.flatten <$> entries.mapM ·) (funext (ofEntry_told site chain))
  simpa only [Outcome.mapM_map, Functor.map_map, ← List.map_flatten] using each

theorem patternRead_access {chain : Chain} {entry : Node} {reads : List Read} {read : Read}
    (given : patternRead chain entry = .ok reads) (member : read ∈ reads) : read.access = .destructure := by
  obtain ⟨name, _, given⟩ := Outcome.bind_eq_ok.mp given
  split at given
  · cases given
    split at member
    · cases member
    · rw [List.mem_singleton.mp member]
  · cases given
    cases member

theorem not_shaped_of_mapM {chain : Chain} {entries : List Node} {lists : List (List Read)}
    (given : entries.mapM (patternRead chain) = .ok lists) : lists.flatten.any Read.isShaped = false := by
  rw [List.any_eq_false]
  intro read member
  obtain ⟨reads, listed, member⟩ := List.mem_flatten.mp member
  obtain ⟨entry, _, given⟩ := (Outcome.mem_of_mapM given).mp listed
  rw [Read.isShaped, patternRead_access given member]
  decide

theorem ofDeclarator_told (kind : c.node.kind = .declarator) :
    List.map signature <$> ofDeclarator site c.node = told site c := by
  have source : sourceChain? c.node = (c.node.part? .value).bind chainOf? := by
    simp [sourceChain?, kind, sourceRole?]
  rw [told, readsAt, readsFrom, kind, source, ofDeclarator]
  cases (c.node.part? .value).bind chainOf? with
  | none => rfl
  | some chain =>
    dsimp only [Option.elim, patternReads]
    cases c.node.part? .name with
    | none => rfl
    | some pattern =>
      dsimp only
      split
      · rfl
      · have entries := ofEntries_told site chain pattern.namedParts
        simp only [bind_pure_comp, Functor.map_map, entries]
        cases given : pattern.namedParts.mapM (patternRead chain) with
        | error failure => rfl
        | ok lists =>
          dsimp only [Functor.map, Except.map, bind, Except.bind]
          rw [if_neg (Bool.eq_false_iff.mp (not_shaped_of_mapM given))]
          rfl

theorem usagesAt_told : List.map signature <$> usagesAt site c = told site c := by
  rw [usagesAt]
  split
  · next kind => exact ofMember_told kind
  · next kind => exact ofSubscript_told kind
  · next kind => exact ofDeclarator_told kind
  · next noMember noSubscript noDeclarator =>
    have nothing : readsAt c.node = .ok [] := by
      rw [readsAt, readsFrom]
      split <;> first | contradiction | rfl
    rw [told, nothing]
    rfl

end Recognizer

/-! Reads of entries by a name in quotes. The name that is reported is the value that is taken for the string. -/

namespace Recognizer

/-- Whether a node takes an entry from an object that holds variables, with a string for its name that has some
elements. -/
structure IsQuotedEntry {quote : Char} (node : Node) (chain : Chain) (elements : List (Element quote)) : Prop where
  subscript : node.kind = .subscript
  object : objectChain? node = some chain
  index : ∃ literal, corePart? .index node = some literal ∧ IsLiteral literal elements

variable {site : Site} {c : Cursor} {chain : Chain} {quote : Char} {elements : List (Element quote)}

theorem IsQuotedEntry.indexName?_eq {node : Node} (entry : IsQuotedEntry node chain elements) :
    indexName? node = .ok (some (String.ofList (elements.flatMap Element.kept))) := by
  obtain ⟨index, part, literal⟩ := entry.index
  rw [indexName?, part]
  exact literal.literalValue?_eq

theorem IsQuotedEntry.usagesAt_eq {usages : List Usage} (entry : IsQuotedEntry c.node chain elements)
    (found : usagesAt site c = .ok usages) : ∃ shape, shapeOf? c = .ok shape ∧
      usages = [usageAt site c.node (String.ofList (elements.flatMap Element.kept)) .bracket chain shape] := by
  rw [usagesAt, entry.subscript] at found
  dsimp only at found
  rw [ofSubscript, entry.indexName?_eq, entry.object] at found
  obtain ⟨_, ⟨⟩, found⟩ := Outcome.bind_eq_ok.mp found
  obtain ⟨shape, shaped, ⟨⟩⟩ := Outcome.bind_eq_ok.mp found
  exact ⟨shape, shaped, rfl⟩

end Recognizer

variable {site : Site} {source : String} {tree : Node}

theorem exists_reads (parsed : Script.parse (.ofPath site.file) source.toList = some tree)
    (scannable : IsScannable site.file source) : ∃ reads : Cursor → List Usage,
      ofSource site source = .ok ((Cursor.walk tree).flatMap reads) ∧
        ∀ c ∈ Cursor.walk tree, Recognizer.usagesAt site c = .ok (reads c) := by
  have returns : ∀ c ∈ Cursor.walk tree, Returns (Recognizer.usagesAt site c) := fun c met =>
    Recognizer.usagesAt_returns.mpr (scannable tree parsed c met)
  let reads (c : Cursor) : List Usage := (Recognizer.usagesAt site c).toOption.getD []
  have each : ∀ c ∈ Cursor.walk tree, Recognizer.usagesAt site c = .ok (reads c) := by
    intro c met
    obtain ⟨usages, ok⟩ := returns c met
    simp only [reads, ok]
    rfl
  refine ⟨reads, ?_, each⟩
  rw [ofSource, parsed, ofTree, Recognizer.usages, Outcome.mapM_of_ok each, List.flatMap_def]
  rfl

/-- A read of an entry by a name in quotes is reported under the value that is taken for the string. It is what the
string stands for exactly if no line is continued in it. -/
theorem quoted_entries_exact (parsed : Script.parse (.ofPath site.file) source.toList = some tree)
    (scannable : IsScannable site.file source) : ∃ reads : Cursor → List Usage,
      ofSource site source = .ok ((Cursor.walk tree).flatMap reads) ∧
        ∀ c ∈ Cursor.walk tree, ∀ {quote : Char} {elements : List (Element quote)} {chain : Chain},
          Recognizer.IsQuotedEntry c.node chain elements →
            (∃ shape, Recognizer.shapeOf? c = .ok shape ∧ reads c =
              [Recognizer.usageAt site c.node (String.ofList (elements.flatMap Element.kept)) .bracket chain shape]) ∧
            (elements.flatMap Element.kept = elements.flatMap Element.value ↔
              ∀ element ∈ elements, element.isContinuation = false) := by
  obtain ⟨reads, found, each⟩ := exists_reads parsed scannable
  refine ⟨reads, found, fun c met => ?_⟩
  intro quote elements chain entry
  exact ⟨entry.usagesAt_eq (each c met), flatMap_kept_eq_iff⟩

section Sample

def continuedSource : String := "process.env['\\x41\\u\x7b5F\x7d\\\nB']"

def continuedName : List (Element '\'') :=
  [.code 'A' ['x', '4', '1'] (.two ⟨[4, 1], .cons (by decide) (.cons (by decide) .nil), by decide⟩),
    .code '_' ['u', '\x7b', '5', 'F', '\x7d']
      (.braced (List.cons_ne_nil '5' ['F']) ⟨[5, 15], .cons (by decide) (.cons (by decide) .nil), by decide⟩),
    .continuation ['\n'] (by decide), .plain 'B' (by decide)]

def partAt (kind : Kind) (column stop : Nat) (text : String) : Node :=
  .mk kind none ⟨column, 0, column⟩ ⟨stop, 0, stop⟩ text.toList []

def continuedIndex : Node :=
  .mk .string (some .index) ⟨12, 0, 12⟩ ⟨27, 1, 2⟩ []
    [partAt .mark 12 13 "'", partAt .escape 13 17 "\\x41", partAt .escape 17 23 "\\u\x7b5F\x7d",
      .mk .escape none ⟨23, 0, 23⟩ ⟨25, 1, 0⟩ ['\\', '\n'] [], .mk .fragment none ⟨25, 1, 0⟩ ⟨26, 1, 1⟩ ['B'] [],
      .mk .mark none ⟨26, 1, 1⟩ ⟨27, 1, 2⟩ ['\''] []]

def continuedEntry : Node :=
  .mk .subscript none ⟨0, 0, 0⟩ ⟨28, 1, 3⟩ []
    [.mk .member (some .object) ⟨0, 0, 0⟩ ⟨11, 0, 11⟩ []
        [(partAt .identifier 0 7 "process").withRole .object, partAt .mark 7 8 ".",
          (partAt .propertyName 8 11 "env").withRole .property],
      partAt .mark 11 12 "[", continuedIndex, .mk .mark none ⟨27, 1, 2⟩ ⟨28, 1, 3⟩ [']'] []]

def continuedTree : Node :=
  .mk .construct none ⟨0, 0, 0⟩ ⟨28, 1, 3⟩ [] [.mk .construct none ⟨0, 0, 0⟩ ⟨28, 1, 3⟩ [] [continuedEntry]]

theorem isQuotedEntry_continued : Recognizer.IsQuotedEntry continuedEntry .server continuedName where
  subscript := rfl
  object := by decide
  index := by
    have last : Spells [.mk .fragment none ⟨25, 1, 0⟩ ⟨26, 1, 1⟩ ['B'] []]
        ([(.plain 'B' (by decide) : Element '\'')] ++ []) :=
      .fragment rfl (List.forall_mem_singleton.mpr rfl) rfl .nil
    exact ⟨continuedIndex, by decide, rfl, .escape rfl rfl rfl (.escape rfl rfl rfl (.escape rfl rfl rfl last))⟩

theorem quoted_entries_exact_continued : ∃ usage, ofSource ⟨"src/index.ts", .node⟩ continuedSource = .ok [usage] ∧
    usage.name = String.ofList (continuedName.flatMap Element.kept) ∧ usage.name = "A_\nB" ∧
      String.ofList (continuedName.flatMap Element.value) = "A_B" := by
  have parsed : Script.parse (.ofPath "src/index.ts") continuedSource.toList = some continuedTree := by decide +kernel
  have ok : ofSource ⟨"src/index.ts", .node⟩ continuedSource =
      .ok [⟨"A_\nB", "src/index.ts", 1, 0, .bracket, none, false⟩] := Outcome.eq_ok_of_toOption (by decide +kernel)
  obtain ⟨reads, found, each⟩ := @quoted_entries_exact ⟨"src/index.ts", .node⟩ _ _ parsed (ofSource_returns.mp ⟨_, ok⟩)
  have met : ∃ c ∈ Cursor.walk continuedTree, c.node = continuedEntry := by
    simp [Cursor.walk_eq_visits, continuedTree, Cursor.visits, Cursor.visitsOf, Node.isNamed, Node.kind, continuedEntry]
  obtain ⟨c, met, here⟩ := met
  obtain ⟨⟨shape, _, read⟩, _⟩ := each c met (here ▸ isQuotedEntry_continued)
  have same := Except.ok.inj (found.symm.trans ok)
  have told := List.mem_flatMap.mpr ⟨c, met, read ▸ List.mem_singleton_self _⟩
  rw [same, List.mem_singleton] at told
  exact ⟨_, ok, (congrArg Usage.name told).symm, rfl, by decide⟩

end Sample

end EnvAudit.Usage
