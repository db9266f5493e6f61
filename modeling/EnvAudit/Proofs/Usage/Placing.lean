import EnvAudit.Proofs.Outcome
import EnvAudit.Proofs.Script.Trees
import EnvAudit.Proofs.Script.Walk
import EnvAudit.Proofs.Text.Lines
import EnvAudit.Usage.Scan

/-! Where the reads of a source stand. The node of a read spans a text of the source in which the name of the variable
occurs, and the read is given the line and the column of the first character of that text. The column counts bytes. -/
namespace EnvAudit

namespace Script
open Text (lastLine byteLength)

theorem afterAll_eq (text : List Char) :
    Place.afterAll ⟨0, 0, 0⟩ text = ⟨byteLength text, text.count '\n', byteLength (lastLine text)⟩ := by
  induction text using List.reverseRecOn with
  | nil => rfl
  | append_singleton text c ih =>
    rw [Place.afterAll_append, ih, Text.lastLine_concat, Text.byteLength_append, Text.byteLength_singleton,
      List.count_append]
    change Place.after _ c = _
    unfold Place.after
    by_cases feed : c = '\n'
    · subst feed
      rfl
    · simp [feed, Text.byteLength_append, Text.byteLength_singleton]

theorem placeAt_eq (source : List Char) (i : Nat) :
    placeAt source i =
      ⟨byteLength (source.take i), (source.take i).count '\n', byteLength (lastLine (source.take i))⟩ := afterAll_eq _

structure Node.Spans (source : List Char) (node : Node) (i j : Nat) : Prop where
  laid : Laid source i [node] j
  start : node.start = placeAt source i
  stop : node.stop = placeAt source j

theorem Lies.spans {source : List Char} {node : Node} (lies : Lies source node) : ∃ i j, node.Spans source i j := by
  obtain ⟨_, _, laid⟩ := lies
  obtain ⟨i, j, _, _, start, stop, tight⟩ := laid.tighten
  exact ⟨i, j, tight, start, stop⟩

theorem Node.Spans.token {source : List Char} {node part : Node} {i j : Nat} (spans : node.Spans source i j)
    (member : part ∈ node.parts) (token : part.kind.isComposite = false) : part.tokens <:+: slice source i j := by
  obtain ⟨laid, _, _⟩ := spans
  cases laid with
  | token => cases member
  | composite _ within later =>
    obtain ⟨a, b, before, after, laid⟩ := within.part member
    cases laid with
    | composite composite => cases token.symm.trans composite
    | @token _ c d _ kind role _ starts le ends =>
      refine ⟨slice source i c, slice source d j, ?_⟩
      have first : i ≤ c := Nat.le_trans before starts
      have last : d ≤ j := Nat.le_trans ends.le (Nat.le_trans after later.le)
      rw [Node.tokens, Node.tokensOf, List.append_nil, slice_append source first le,
        slice_append source (Nat.le_trans first le) last]

theorem walk_lies {dialect : Dialect} {source : List Char} {tree : Node} {c : Cursor}
    (parsed : parse dialect source = some tree) (met : c ∈ Cursor.walk tree) : c.node = tree ∨ Lies source c.node := by
  refine Cursor.walk_induction (fun node => node = tree ∨ Lies source node) (.inl rfl) ?_ met
  refine fun node part lies member => .inr ?_
  rcases lies with rfl | lies
  · exact parse_parts_lie parsed member
  · exact lies.part member

theorem kind_of_parse {dialect : Dialect} {source : List Char} {tree : Node}
    (parsed : parse dialect source = some tree) : tree.kind = .construct := by
  obtain ⟨_, _, parsed⟩ := Option.bind_eq_some_iff.mp parsed
  obtain ⟨⟨_, _⟩, _, same⟩ := Option.bind_eq_some_iff.mp parsed
  cases same
  rfl

end Script

namespace Usage
open Script

structure IsTakenAt (site : Site) (usage : Usage) (node : Node) : Prop where
  kind : node.kind = .member
  named : ∃ property ∈ node.parts, property.kind = .propertyName ∧ usage.name = String.ofList property.tokens
  file : usage.file = site.file
  line : usage.line = node.start.row + 1
  column : usage.column = node.start.column

namespace Recognizer
variable {site : Site} {usage : Usage} {found : List Usage} {c : Cursor}

theorem ofMember_isTaken (kind : c.node.kind = .member) (given : ofMember site c = .ok found) (member : usage ∈ found) :
    usage.IsTakenAt site c.node := by
  rw [ofMember] at given
  split at given
  · next chain property _ part =>
    split at given
    · cases given
      cases member
    · next named =>
      obtain ⟨shape, _, same⟩ := Outcome.bind_eq_ok.mp given
      cases same
      cases List.mem_singleton.mp member
      refine ⟨kind, ⟨property, List.mem_of_find?_eq_some part, by simpa using named, rfl⟩, rfl, rfl, rfl⟩
  · cases given
    cases member

theorem ofSubscript_access (given : ofSubscript site c = .ok found) (member : usage ∈ found) :
    usage.access ≠ .direct := by
  obtain ⟨name, _, given⟩ := Outcome.bind_eq_ok.mp given
  split at given
  · cases given
    cases member
  · obtain ⟨shape, _, same⟩ := Outcome.bind_eq_ok.mp given
    cases same
    cases List.mem_singleton.mp member
    nofun
  · cases given
    cases List.mem_singleton.mp member
    nofun

theorem ofEntry_access {chain : Chain} {entry : Node} (given : ofEntry site chain entry = .ok found)
    (member : usage ∈ found) : usage.access ≠ .direct := by
  obtain ⟨name, _, given⟩ := Outcome.bind_eq_ok.mp given
  split at given
  · cases given
    split at member
    · cases member
    · cases List.mem_singleton.mp member
      nofun
  · cases given
    cases member

theorem ofDeclarator_access {node : Node} (given : ofDeclarator site node = .ok found) (member : usage ∈ found) :
    usage.access ≠ .direct := by
  rw [ofDeclarator] at given
  split at given
  · split at given
    · cases given
      cases member
    · obtain ⟨lists, each, same⟩ := Outcome.bind_eq_ok.mp given
      cases same
      obtain ⟨entries, belongs, member⟩ := List.mem_flatten.mp member
      obtain ⟨entry, _, given⟩ := (Outcome.mem_of_mapM each).mp belongs
      exact ofEntry_access given member
  · cases given
    cases member

theorem usagesAt_isTaken (given : usagesAt site c = .ok found) (member : usage ∈ found)
    (direct : usage.access = .direct) : usage.IsTakenAt site c.node := by
  rw [usagesAt] at given
  split at given
  · next kind => exact ofMember_isTaken kind given member
  · exact absurd direct (ofSubscript_access given member)
  · exact absurd direct (ofDeclarator_access given member)
  · cases given
    cases member

end Recognizer

theorem direct_read_spans {site : Site} {source : String} {tree : Node} {usages : List Usage} {usage : Usage}
    (parsed : Script.parse (.ofPath site.file) source.toList = some tree) (scanned : ofSource site source = .ok usages)
    (read : usage ∈ usages) (direct : usage.access = .direct) :
    ∃ c ∈ Cursor.walk tree, usage.IsTakenAt site c.node ∧ ∃ i j, c.node.Spans source.toList i j ∧
      usage.name.toList <:+: slice source.toList i j := by
  rw [ofSource, parsed, ofTree, Recognizer.usages] at scanned
  obtain ⟨lists, each, same⟩ := Outcome.bind_eq_ok.mp scanned
  cases same
  obtain ⟨found, belongs, member⟩ := List.mem_flatten.mp read
  obtain ⟨c, met, given⟩ := (Outcome.mem_of_mapM each).mp belongs
  have taken := Recognizer.usagesAt_isTaken given member direct
  -- Only the root may begin before its first part, and the root is no member access.
  have inner : Lies source.toList c.node := by
    rcases walk_lies parsed met with root | lies
    · cases (taken.kind.symm.trans (congrArg Node.kind root)).trans (kind_of_parse parsed)
    · exact lies
  obtain ⟨i, j, spans⟩ := inner.spans
  obtain ⟨property, part, kind, name⟩ := taken.named
  have written := spans.token part (by rw [kind])
  exact ⟨c, met, taken, i, j, spans, by rwa [name, String.toList_ofList]⟩

end Usage
end EnvAudit
