import EnvAudit.Proofs.Outcome
import EnvAudit.Usage.Scan

/-! When the reads of a source are recognized. Of everything that a source may hold only one thing stops this: the
value of a quoted string is asked for, and an escape in it gives a number that is taken for no code point at all. -/
namespace EnvAudit

namespace Script

def IsOversized (sequence : List Char) : Prop :=
  match sequence.drop 1 with
  | letter :: digits => (letter = 'u' ∨ letter = 'x') ∧ ∃ code ∈ escapedCode? digits, greatestCode < code
  | [] => False

theorem codeText_returns {sequence : List Char} {code : Nat} :
    Returns (codeText sequence code) ↔ ¬ greatestCode < code := by
  rw [codeText]
  split
  · next beyond => simp [beyond]
  · next within =>
    refine iff_of_true ?_ within
    split
    · exact Outcome.returns_ok _
    · split <;> exact Outcome.returns_ok _

theorem unescape_returns {sequence : List Char} : Returns (unescape sequence) ↔ ¬ IsOversized sequence := by
  rw [unescape, IsOversized]
  cases sequence.drop 1 with
  | nil => simp
  | cons letter digits =>
    simp only [Bool.or_eq_true, beq_iff_eq]
    split
    · next coded =>
      cases escapedCode? digits with
      | none => simp
      | some code => simp [codeText_returns, coded]
    · next plain =>
      refine iff_of_true ?_ (by simp [plain])
      split <;> exact Outcome.returns_ok _

example : IsOversized "\\u\x7bfffffffffffff\x7d".toList := ⟨.inl rfl, 0xfffffffffffff, rfl, by decide⟩

def HasOversized (node : Node) : Prop :=
  node.kind = .string ∧ ∃ part ∈ node.parts, part.kind = .escape ∧ IsOversized part.text

theorem partText_returns {part : Node} :
    Returns (partText part) ↔ ¬ (part.kind = .escape ∧ IsOversized part.text) := by
  rw [partText]
  split
  · next fragment => simp [fragment]
  · next escape => simp [escape, unescape_returns]
  · next other => exact iff_of_true (Outcome.returns_ok _) fun both => other both.1

theorem partsText_returns {parts : List Node} :
    Returns (partsText parts) ↔ ¬ ∃ part ∈ parts, part.kind = .escape ∧ IsOversized part.text := by
  induction parts with
  | nil => simp [partsText]
  | cons part rest ih =>
    rw [partsText, List.exists_mem_cons_iff, not_or, ← ih, ← partText_returns, Outcome.returns_bind]
    constructor
    · rintro ⟨text, first, others⟩
      exact ⟨⟨text, first⟩, Outcome.returns_map.mp others⟩
    · rintro ⟨⟨text, first⟩, others⟩
      exact ⟨text, first, Outcome.returns_map.mpr others⟩

theorem literalValue?_returns {node : Node} : Returns (literalValue? node) ↔ ¬ HasOversized node := by
  rw [literalValue?, HasOversized]
  by_cases quoted : node.kind = .string
  · simp only [quoted, beq_self_eq_true, if_true, true_and]
    exact Outcome.returns_map.trans partsText_returns
  · simp [quoted]

end Script

namespace Usage.Recognizer
open Script

/-- Whether the value of an operand of a comparison is asked for at a read: the read itself is no such operand. -/
structure IsOperand (read comparison : Node) (side : Role) (operand : Node) : Prop where
  part : corePart? side comparison = some operand
  apart : operand.encloses read = false

theorem isTruthText_returns {read comparison : Node} {side : Role} :
    Returns (isTruthText read comparison side) ↔
      ∀ operand, IsOperand read comparison side operand → ¬ HasOversized operand := by
  rw [isTruthText]
  cases found : corePart? side comparison with
  | none =>
    refine iff_of_true (Outcome.returns_ok _) ?_
    rintro operand ⟨part, _⟩
    cases found.symm.trans part
  | some operand =>
    dsimp only
    split
    · next around =>
      refine iff_of_true (Outcome.returns_ok _) ?_
      rintro other ⟨part, apart⟩
      cases found.symm.trans part
      cases around.symm.trans apart
    · next apart =>
      refine Outcome.returns_map.trans (literalValue?_returns.trans ?_)
      constructor
      · rintro small other ⟨part, _⟩
        cases found.symm.trans part
        exact small
      · intro small
        exact small operand ⟨found, Bool.eq_false_iff.mpr apart⟩

def IsEquality (comparison : Node) : Prop :=
  (comparison.part? .operator).any (fun operator => equalitySigns.any (isWritten operator)) = true

/-- The quoted strings whose values are asked for at a read in a comparison. The operand on the right only counts if
the one on the left is not the text of a truth value. -/
inductive Compares (read comparison : Node) : Node → Prop
  | left {operand : Node} (equality : IsEquality comparison) (stands : IsOperand read comparison .left operand) :
    Compares read comparison operand
  | right {operand : Node} (equality : IsEquality comparison) (stands : IsOperand read comparison .right operand)
    (open_ : isTruthText read comparison .left = .ok false) : Compares read comparison operand

theorem shapeForComparison?_returns {read comparison : Node} :
    Returns (shapeForComparison? read comparison) ↔ ∀ node, Compares read comparison node → ¬ HasOversized node := by
  rw [shapeForComparison?]
  split
  · next other =>
    refine iff_of_true (Outcome.returns_pure _) ?_
    have unequal : ¬ IsEquality comparison := by simpa [IsEquality] using other
    rintro node (⟨equality, _⟩ | ⟨equality, _, _⟩)
    · exact absurd equality unequal
    · exact absurd equality unequal
  · next same =>
    have equality : IsEquality comparison := by simpa [IsEquality] using same
    rw [Outcome.returns_bind]
    constructor
    · rintro ⟨truth, judged, rest⟩ node (⟨_, stands⟩ | ⟨_, stands, other⟩)
      · exact isTruthText_returns.mp ⟨truth, judged⟩ node stands
      · cases judged.symm.trans other
        obtain ⟨truth, judged, _⟩ := Outcome.returns_bind.mp rest
        exact isTruthText_returns.mp ⟨truth, judged⟩ node stands
    · intro small
      obtain ⟨truth, judged⟩ := isTruthText_returns.mpr fun operand stands => small operand (.left equality stands)
      refine ⟨truth, judged, ?_⟩
      cases truth with
      | true => exact Outcome.returns_pure _
      | false =>
        refine (Outcome.returns_bind_iff fun _ _ => Outcome.returns_pure _).mpr ?_
        exact isTruthText_returns.mpr fun operand stands => small operand (.right equality stands judged)

def Surrounds (c : Cursor) (node : Node) : Prop :=
  ∃ comparison, context? c = some comparison ∧ comparison.kind = .binary ∧ Compares c.node comparison node

theorem shapeOf?_returns {c : Cursor} : Returns (shapeOf? c) ↔ ∀ node, Surrounds c node → ¬ HasOversized node := by
  rw [shapeOf?]
  cases found : context? c with
  | none =>
    refine iff_of_true (Outcome.returns_ok _) ?_
    rintro node ⟨comparison, around, _⟩
    cases found.symm.trans around
  | some context =>
    have surrounds (node : Node) : Surrounds c node ↔ context.kind = .binary ∧ Compares c.node context node := by
      constructor
      · rintro ⟨comparison, around, rest⟩
        cases found.symm.trans around
        exact rest
      · exact fun rest => ⟨context, found, rest⟩
    simp only [surrounds]
    split
    · next call => exact iff_of_true (Outcome.returns_ok _) (by simp [call])
    · next binary => simp [binary, shapeForComparison?_returns]
    · next member => exact iff_of_true (Outcome.returns_ok _) (by simp [member])
    · next _ noBinary _ => exact iff_of_true (Outcome.returns_ok _) fun node both => (noBinary both.1).elim

def IsMemberRead (node : Node) : Prop :=
  (∃ chain, objectChain? node = some chain) ∧ ∃ property, node.part? .property = some property ∧
    property.kind = .propertyName

theorem ofMember_returns {site : Site} {c : Cursor} : Returns (ofMember site c) ↔
    (IsMemberRead c.node → ∀ node, Surrounds c node → ¬ HasOversized node) := by
  rw [ofMember, IsMemberRead, ← shapeOf?_returns]
  cases objectChain? c.node with
  | none => simp
  | some chain =>
    cases c.node.part? .property with
    | none => simp
    | some property =>
      by_cases named : property.kind = .propertyName
      · simp [named]
      · simp [named]

def IsEntryRead (node : Node) : Prop :=
  (∃ chain, objectChain? node = some chain) ∧ ∃ name, indexName? node = .ok (some name)

theorem indexName?_returns {node : Node} : Returns (indexName? node) ↔
    ∀ index, corePart? .index node = some index → ¬ HasOversized index := by
  rw [indexName?]
  cases corePart? .index node with
  | none => simp
  | some index => simp [literalValue?_returns]

theorem ofSubscript_returns {site : Site} {c : Cursor} : Returns (ofSubscript site c) ↔
    (∀ index, corePart? .index c.node = some index → ¬ HasOversized index) ∧
      (IsEntryRead c.node → ∀ node, Surrounds c node → ¬ HasOversized node) := by
  rw [ofSubscript, IsEntryRead, ← shapeOf?_returns, ← indexName?_returns, Outcome.returns_bind]
  cases found : indexName? c.node with
  | error failure => simp
  | ok name =>
    cases objectChain? c.node with
    | none => simp
    | some chain => cases name <;> simp

def IsQuotedKey (entry key : Node) : Prop := keyOf? entry = some key ∧ key.kind = .string

theorem entryName?_returns {entry : Node} :
    Returns (entryName? entry) ↔ ∀ key, IsQuotedKey entry key → ¬ HasOversized key := by
  rw [entryName?]
  simp only [IsQuotedKey]
  cases keyOf? entry with
  | none => simp
  | some key =>
    by_cases quoted : key.kind = .string
    · simp [quoted, literalValue?_returns]
    · simp [quoted]

theorem ofEntry_returns {site : Site} {chain : Chain} {entry : Node} :
    Returns (ofEntry site chain entry) ↔ ∀ key, IsQuotedKey entry key → ¬ HasOversized key := by
  rw [ofEntry, ← entryName?_returns]
  apply Outcome.returns_bind_iff
  intro name _
  cases name <;> exact Outcome.returns_pure _

def IsUnpacked (declarator entry : Node) : Prop :=
  (∃ chain, (declarator.part? .value).bind chainOf? = some chain) ∧ ∃ pattern, declarator.part? .name = some pattern ∧
    pattern.kind = .objectPattern ∧ entry ∈ pattern.namedParts

theorem ofDeclarator_returns {site : Site} {node : Node} : Returns (ofDeclarator site node) ↔
    ∀ entry, IsUnpacked node entry → ∀ key, IsQuotedKey entry key → ¬ HasOversized key := by
  rw [ofDeclarator]
  simp only [IsUnpacked]
  cases (node.part? .value).bind chainOf? with
  | none => simp
  | some chain =>
    cases node.part? .name with
    | none => simp
    | some pattern =>
      by_cases object : pattern.kind = .objectPattern
      · simp [object, Outcome.mapM_returns, ofEntry_returns]
      · simp [object]

inductive Consults (c : Cursor) : Node → Prop
  | member {node : Node} (kind : c.node.kind = .member) (read : IsMemberRead c.node) (around : Surrounds c node) :
    Consults c node
  | index {node : Node} (kind : c.node.kind = .subscript) (part : corePart? .index c.node = some node) : Consults c node
  | entry {node : Node} (kind : c.node.kind = .subscript) (read : IsEntryRead c.node) (around : Surrounds c node) :
    Consults c node
  | key {entry node : Node} (kind : c.node.kind = .declarator) (unpacked : IsUnpacked c.node entry)
    (quoted : IsQuotedKey entry node) : Consults c node

theorem usagesAt_returns {site : Site} {c : Cursor} :
    Returns (usagesAt site c) ↔ ∀ node, Consults c node → ¬ HasOversized node := by
  rw [usagesAt]
  split
  · next member =>
    rw [ofMember_returns]
    constructor
    · rintro small node (⟨_, read, around⟩ | ⟨kind, _⟩ | ⟨kind, _⟩ | ⟨kind, _⟩)
      · exact small read node around
      all_goals cases member.symm.trans kind
    · exact fun small read node around => small node (.member member read around)
  · next subscript =>
    rw [ofSubscript_returns]
    constructor
    · rintro ⟨index, entry⟩ node (⟨kind, _⟩ | ⟨_, part⟩ | ⟨_, read, around⟩ | ⟨kind, _⟩)
      · cases subscript.symm.trans kind
      · exact index node part
      · exact entry read node around
      · cases subscript.symm.trans kind
    · intro small
      exact ⟨fun node part => small node (.index subscript part),
        fun read node around => small node (.entry subscript read around)⟩
  · next declarator =>
    rw [ofDeclarator_returns]
    constructor
    · rintro small node (⟨kind, _⟩ | ⟨kind, _⟩ | ⟨kind, _⟩ | ⟨_, unpacked, quoted⟩)
      · cases declarator.symm.trans kind
      · cases declarator.symm.trans kind
      · cases declarator.symm.trans kind
      · exact small _ unpacked node quoted
    · exact fun small entry unpacked key quoted => small key (.key declarator unpacked quoted)
  · next noMember noSubscript noDeclarator =>
    refine iff_of_true (Outcome.returns_ok _) ?_
    rintro node (⟨kind, _⟩ | ⟨kind, _⟩ | ⟨kind, _⟩ | ⟨kind, _⟩)
    · exact (noMember kind).elim
    · exact (noSubscript kind).elim
    · exact (noSubscript kind).elim
    · exact (noDeclarator kind).elim

theorem usages_returns {site : Site} {tree : Node} : Returns (usages site tree) ↔
    ∀ c ∈ Cursor.walk tree, ∀ node, Consults c node → ¬ HasOversized node := by
  have each (c : Cursor) : Returns (usagesAt site c) ↔ ∀ node, Consults c node → ¬ HasOversized node :=
    usagesAt_returns
  simp only [← each]
  rw [← Outcome.mapM_returns]
  exact Outcome.returns_map

end Usage.Recognizer

namespace Usage
open Script

/-- Whether no quoted string whose value is asked for in a source has an escape that is taken for no code point. A
source without a tree is searched line by line, and no value is asked for. -/
def IsScannable (file source : String) : Prop :=
  ∀ tree, Script.parse (.ofPath file) source.toList = some tree →
    ∀ c ∈ Cursor.walk tree, ∀ node, Recognizer.Consults c node → ¬ HasOversized node

theorem ofSource_returns {site : Site} {source : String} :
    Returns (ofSource site source) ↔ IsScannable site.file source := by
  rw [ofSource, IsScannable]
  cases Script.parse (.ofPath site.file) source.toList with
  | none => simp [ofTree]
  | some tree => simp [ofTree, Recognizer.usages_returns]

example : ¬ IsScannable "src/index.ts" "process.env[\"\\u\x7bfffffffffffff\x7d\"]" := by
  intro scannable
  obtain ⟨usages, ok⟩ : Returns (ofSource ⟨"src/index.ts", .node⟩ _) := ofSource_returns.mpr scannable
  have failed : (ofSource ⟨"src/index.ts", .node⟩ "process.env[\"\\u\x7bfffffffffffff\x7d\"]").toBool = false := by
    decide +kernel
  rw [ok] at failed
  cases failed

theorem scan_yields (site : Site) (source : String) : Logged.Yields (scan site source) (ofSource site source) := by
  unfold scan
  dsimp only
  split
  · exact Logged.yields_report.bind fun _ => Logged.yields_lift _
  · exact Logged.yields_lift _

end Usage
end EnvAudit
