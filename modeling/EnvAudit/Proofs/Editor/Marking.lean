import EnvAudit.Audit.Missing
import EnvAudit.Editor.Diagnostic
import EnvAudit.Proofs.Text.Cutting
import EnvAudit.Proofs.Usage.Placing

/-! Where a buffer is marked for a variable that is read but not declared. The column of a read counts bytes, and the
mark takes it for a number of characters: the mark begins where the read does as long as only ASCII stands before the
read on its line, and any other character there pushes it to the right. -/
namespace EnvAudit.Editor
open Script
open Text (lastLine byteLength)

def Span.textIn (content : List Char) (span : Span) : List Char :=
  (((Text.lines content)[span.start.line]?.getD []).take span.stop.character).drop span.start.character

def IsAscii (text : List Char) : Prop := ∀ c ∈ text, c.toNat < 0x80

/-- How a mark stands to a text of the content between two points in which a name occurs: it is on the line where the
text begins, and as many characters from its start as there are bytes before the text. -/
structure Marks (content : List Char) (i j : Nat) (name : List Char) (span : Span) : Prop where
  line : span.start.line = (content.take i).count '\n'
  character : span.start.character = byteLength (lastLine (content.take i))
  begins_iff : span.start.character = (lastLine (content.take i)).length ↔ IsAscii (lastLine (content.take i))
  ends : IsAscii (lastLine (content.take i)) → '\n' ∉ slice content i j → name <:+ span.textIn content

theorem markEnd_of_infix (before : List Char) {rest name : List Char} (inside : name <:+: rest) :
    ∃ front, name <:+ front ∧ front <+: rest ∧
      markEnd (before ++ rest) name before.length = before.length + front.length := by
  obtain ⟨distance, found⟩ := Text.find?_of_infix inside
  obtain ⟨front, after, rfl, length⟩ := Text.eq_append_of_find? found
  refine ⟨front ++ name, List.suffix_append front name, List.prefix_append _ after, ?_⟩
  have within : ¬ (before ++ (front ++ name ++ after)).length < before.length := by simp
  rw [markEnd, if_neg within, List.drop_left, found, List.length_append, ← length]
  exact Nat.add_assoc _ _ _

theorem line_at {content : List Char} {i j : Nat} (le : i ≤ j) (single : '\n' ∉ slice content i j) :
    ∃ rest, (Text.lines content)[(content.take i).count '\n']? = some (lastLine (content.take i) ++ rest) ∧
      slice content i j <+: rest := by
  have line := Text.lines_getElem? (content.take i) (slice content i j ++ content.drop j)
  rw [← List.append_assoc, take_append_slice_append content le, Text.takeWhile_line single] at line
  exact ⟨_, line, List.prefix_append _ _⟩

theorem marks_of_spans {content : List Char} {node : Node} {i j : Nat} (spans : node.Spans content i j) (issue : Issue)
    (named : issue.name.toList <:+: slice content i j) (location : Location) (line : location.line = node.start.row + 1)
    (column : location.column = some node.start.column) :
    Marks content i j issue.name.toList (diagnosticAt (Text.lines content) issue location).span := by
  have index : lineIndex location = (content.take i).count '\n' := by
    rw [lineIndex, line, spans.start, placeAt_eq, Int.add_sub_cancel, Int.toNat_natCast]
  have start : location.column.getD 0 = byteLength (lastLine (content.take i)) := by
    rw [column, spans.start, placeAt_eq]
    rfl
  refine ⟨index, start, ?_, ?_⟩
  · change location.column.getD 0 = _ ↔ _
    rw [start]
    exact Text.byteLength_eq_length
  · intro ascii single
    obtain ⟨rest, here, begins⟩ := line_at spans.laid.le single
    have inside : issue.name.toList <:+: rest := named.trans begins.isInfix
    obtain ⟨front, ends, prefixed, stop⟩ := markEnd_of_infix (lastLine (content.take i)) inside
    have start' : location.column.getD 0 = (lastLine (content.take i)).length :=
      start.trans (Text.byteLength_eq_length.mpr ascii)
    -- With a column that counts characters, the mark reaches from the text's first one to the end of the name.
    have text : (diagnosticAt (Text.lines content) issue location).span.textIn content = front := by
      change List.drop (location.column.getD 0) (List.take (markEnd ((Text.lines content)[lineIndex location]?.getD [])
        issue.name.toList (location.column.getD 0)) ((Text.lines content)[lineIndex location]?.getD [])) = front
      rw [index, here, start', Option.getD_some, stop, List.take_length_add_append, List.drop_left]
      exact (List.prefix_iff_eq_take.mp prefixed).symm
    rw [text]
    exact ends

theorem diagnosticAt_mem {issues : List Issue} {issue : Issue} {location : Location} {file : String}
    {content : List Char} (member : issue ∈ issues) (located : issue.location = some location)
    (here : location.file = file) :
    diagnosticAt (Text.lines content) issue location ∈ diagnostics issues file content := by
  refine List.mem_filterMap.mpr ⟨issue, member, ?_⟩
  simp [located, here]

/-- A read of a variable that is reported as missing is marked on the line where its text begins. The mark starts right
there exactly when only ASCII comes before the text on that line, and then it ends with the name. -/
theorem marks_of_direct_read (site : Usage.Site) (source : String) {tree : Node} {usages : List Usage} {usage : Usage}
    {declared : List Declaration} {config : Config}
    (parsed : Script.parse (.ofPath site.file) source.toList = some tree)
    (scanned : Usage.ofSource site source = .ok usages) (read : usage ∈ usages) (direct : usage.access = .direct)
    (reported : Missing.ofUsage config usage ∈ Missing.issues declared usages config) :
    ∃ c ∈ Cursor.walk tree, usage.IsTakenAt site c.node ∧ ∃ i j, c.node.Spans source.toList i j ∧
      ∃ mark ∈ diagnostics (Missing.issues declared usages config) site.file source.toList, mark.name = usage.name ∧
        Marks source.toList i j usage.name.toList mark.span := by
  obtain ⟨c, met, taken, i, j, spans, named⟩ := Usage.direct_read_spans parsed scanned read direct
  have line : (usage.line : Int) = c.node.start.row + 1 := by rw [taken.line, Int.natCast_add, Int.cast_ofNat_Int]
  have column : some usage.column = some c.node.start.column := congrArg some taken.column
  have marks :=
    marks_of_spans spans (Missing.ofUsage config usage) named ⟨usage.file, usage.line, usage.column⟩ line column
  exact ⟨c, met, taken, i, j, spans, _, diagnosticAt_mem reported rfl taken.file, rfl, marks⟩

def accentedLine : String := "const é = process.env.FOO;\n"

theorem marks_of_read_on_accented_line :
    ∃ usage, usage.name = "FOO" ∧ usage.column = 11 ∧
      Usage.ofSource ⟨"src/a.ts", .node⟩ accentedLine = .ok [usage] ∧
      ∃ node i j, usage.IsTakenAt ⟨"src/a.ts", .node⟩ node ∧ node.Spans accentedLine.toList i j ∧
        ∃ mark ∈ diagnostics (Missing.issues [] [usage] {}) "src/a.ts" accentedLine.toList,
          Marks accentedLine.toList i j "FOO".toList mark.span := by
  let site : Usage.Site := ⟨"src/a.ts", .node⟩
  let usage : Usage := ⟨"FOO", "src/a.ts", 1, 11, .direct, none, false⟩
  have scanned : Usage.ofSource ⟨"src/a.ts", .node⟩ accentedLine = .ok [usage] :=
    Outcome.eq_ok_of_toOption (by decide +kernel)
  have parsed : (Script.parse (.ofPath "src/a.ts") accentedLine.toList).isSome = true := by decide +kernel
  obtain ⟨tree, parsed⟩ := Option.isSome_iff_exists.mp parsed
  have reported : Missing.ofUsage {} usage ∈ Missing.issues [] [usage] {} := by
    have first : Missing.firstReads [] {} [usage] [] = [usage] := by decide +kernel
    rw [Missing.issues, first]
    exact List.mem_append_left _ List.mem_cons_self
  obtain ⟨c, _, taken, i, j, spans, mark, shown, _, marks⟩ :=
    marks_of_direct_read site accentedLine parsed scanned (List.mem_singleton_self usage) rfl reported
  exact ⟨usage, rfl, rfl, scanned, c.node, i, j, taken, spans, mark, shown, marks⟩

example :
    (diagnostics (Missing.issues [] [⟨"FOO", "src/a.ts", 1, 11, .direct, none, false⟩] {}) "src/a.ts"
      accentedLine.toList).map Diagnostic.span = [⟨⟨0, 11⟩, ⟨0, 25⟩⟩] := by decide +kernel

end EnvAudit.Editor
