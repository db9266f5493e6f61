import EnvAudit.Declaration.Parser
import EnvAudit.Proofs.Text.Cutting

/-! What one line of a declaration file says. A line is silent, or it assigns a text to the name that stands before its
first equals sign, or it is malformed. However an assignment is laid out with blanks and an export mark, it is read as
the name and the value of the text after the equals sign; only a variable called `export` can be taken for a mark. -/
namespace EnvAudit.Declaration

def statement (line : List Char) : List Char :=
  (Text.dropStart? "export ".toList (Text.trim line)).getD (Text.trim line)

def IsSilent (line : List Char) : Prop := Text.trim line = [] ∨ (Text.trim line).head? = some '#'

structure Assigns (line name text : List Char) : Prop where
  speaks : ¬ IsSilent line
  valid : isName name = true
  written : ∃ before, '=' ∉ before ∧ Text.trim before = name ∧ statement line = before ++ '=' :: text

structure IsMalformed (line : List Char) : Prop where
  speaks : ¬ IsSilent line
  nameless : ∀ name text, ¬ Assigns line name text

theorem isSilent_iff {line : List Char} :
    IsSilent line ↔ ((Text.trim line).isEmpty || (Text.trim line).head? == some '#') = true := by
  simp [IsSilent]

theorem readLine_eq {line : List Char} (speaks : ¬ IsSilent line) :
    readLine line =
      match Text.cut? '=' (statement line) with
      | none => .fault "Invalid format: missing '=' sign"
      | some (before, after) =>
        if isName (Text.trim before) then .assignment (Text.trim before) (valueOf after)
        else .fault ("Invalid variable name: \"" ++ String.ofList (Text.trim before) ++ "\"") := by
  rw [isSilent_iff] at speaks
  unfold readLine
  dsimp only
  rw [if_neg speaks]
  rfl

theorem readLine_of_silent {line : List Char} (silent : IsSilent line) : readLine line = .nothing := by
  unfold readLine
  dsimp only
  rw [if_pos (isSilent_iff.mp silent)]

theorem readLine_of_assigns {line name text : List Char} (assigns : Assigns line name text) :
    readLine line = .assignment name (valueOf text) := by
  obtain ⟨before, absent, named, written⟩ := assigns.written
  rw [readLine_eq assigns.speaks, written, Text.cut?_append absent]
  simp only
  rw [named, if_pos assigns.valid]

theorem Assigns.name_eq {line name text other text' : List Char} (first : Assigns line name text)
    (second : Assigns line other text') : name = other := by
  have same := (readLine_of_assigns first).symm.trans (readLine_of_assigns second)
  injection same

theorem readLine_cases (line : List Char) :
    (IsSilent line ∧ readLine line = .nothing) ∨
    (∃ name text, Assigns line name text ∧ readLine line = .assignment name (valueOf text)) ∨
    (IsMalformed line ∧ ∃ message, readLine line = .fault message) := by
  by_cases silent : IsSilent line
  · exact .inl ⟨silent, readLine_of_silent silent⟩
  right
  have read := readLine_eq silent
  cases cut : Text.cut? '=' (statement line) with
  | none =>
    rw [cut] at read
    refine .inr ⟨⟨silent, fun name text assigns => ?_⟩, _, read⟩
    rw [readLine_of_assigns assigns] at read
    cases read
  | some parts =>
    obtain ⟨before, after⟩ := parts
    obtain ⟨written, absent⟩ := Text.eq_append_of_cut? cut
    rw [cut] at read
    simp only at read
    by_cases valid : isName (Text.trim before) = true
    · have assigns : Assigns line (Text.trim before) after := ⟨silent, valid, before, absent, rfl, written⟩
      exact .inl ⟨_, after, assigns, readLine_of_assigns assigns⟩
    · rw [if_neg valid] at read
      refine .inr ⟨⟨silent, fun name text assigns => ?_⟩, _, read⟩
      rw [readLine_of_assigns assigns] at read
      cases read

theorem assigns_of_readLine {line name value : List Char} (reads : readLine line = .assignment name value) :
    ∃ text, Assigns line name text ∧ value = valueOf text := by
  rcases readLine_cases line with ⟨_, read⟩ | ⟨named, text, assigns, read⟩ | ⟨_, message, read⟩
  · rw [reads] at read
    cases read
  · rw [reads] at read
    injection read with same value
    exact ⟨text, same ▸ assigns, value⟩
  · rw [reads] at read
    cases read

theorem isName_of_readLine {line name value : List Char} (reads : readLine line = .assignment name value) :
    isName name = true := by
  obtain ⟨_, assigns, _⟩ := assigns_of_readLine reads
  exact assigns.valid

theorem plain_of_isName {name : List Char} (valid : isName name = true) :
    ∀ c ∈ name, Text.isPlainWordChar c = true := by
  cases name with
  | nil => simp
  | cons c rest =>
    simp only [isName, Bool.and_eq_true, Bool.or_eq_true, List.all_eq_true] at valid
    refine List.forall_mem_cons.mpr ⟨?_, valid.2⟩
    rcases valid.1 with letter | underscore
    · simp [Text.isPlainWordChar, letter]
    · simp [Text.isPlainWordChar, underscore]

def isMargin (text : List Char) : Bool := text.all fun c => Text.isBlank c && c != '\n'

theorem isMargin_iff {text : List Char} : isMargin text = true ↔ ∀ c ∈ text, Text.isBlank c = true ∧ c ≠ '\n' := by
  simp [isMargin]

/-- How an assignment stands on its line: the blanks before it, its export mark, the blanks after the mark, and those
between the name and the equals sign. -/
structure Layout where
  before : List Char := []
  exported : Bool := false
  lead : List Char := []
  gap : List Char := []
  blank : isMargin (before ++ lead ++ gap) = true := by decide

namespace Layout

def front (layout : Layout) : List Char := if layout.exported then "export ".toList ++ layout.lead else layout.lead

def line (layout : Layout) (name text : List Char) : List Char :=
  layout.before ++ (layout.front ++ (name ++ (layout.gap ++ '=' :: text)))

/-- Whether a name is taken for an export mark. -/
def Hides (layout : Layout) (name : List Char) : Prop :=
  layout.exported = false ∧ name = "export".toList ∧ layout.gap.head? = some ' '

variable {layout : Layout} {name : List Char}

theorem not_hides_plain (name : List Char) : ¬ ({} : Layout).Hides name := by
  intro hidden
  cases hidden.2.2

theorem isBlank_before {c : Char} (member : c ∈ layout.before) : Text.isBlank c = true :=
  (isMargin_iff.mp layout.blank c (by simp [member])).1

theorem isBlank_lead {c : Char} (member : c ∈ layout.lead) : Text.isBlank c = true :=
  (isMargin_iff.mp layout.blank c (by simp [member])).1

theorem isBlank_gap {c : Char} (member : c ∈ layout.gap) : Text.isBlank c = true :=
  (isMargin_iff.mp layout.blank c (by simp [member])).1

/-- Trimming a line takes the blanks before its first word and those at the end of the assigned text. -/
theorem trim_line (valid : isName name = true) (text : List Char) :
    Text.trim (layout.line name text) =
      (if layout.exported then "export ".toList ++ layout.lead else []) ++
        (name ++ (layout.gap ++ '=' :: Text.trimEnd text)) := by
  have solid : Text.isBlank '=' = false := by decide
  rw [line, Text.trim_append fun c => isBlank_before, front]
  split
  · have first : Text.isBlank 'e' = false := by decide
    have shape : "export ".toList ++ layout.lead ++ (name ++ (layout.gap ++ '=' :: text)) =
        'e' :: (("xport ".toList ++ layout.lead ++ name ++ layout.gap) ++ '=' :: text) := by simp
    rw [shape, Text.trim_cons first, Text.trimEnd_append_cons solid]
    simp
  · rw [Text.trim_append fun c => isBlank_lead]
    cases name with
    | nil => cases valid
    | cons c rest =>
      have first := Text.isBlank_of_isPlainWordChar (plain_of_isName valid c List.mem_cons_self)
      rw [List.cons_append, Text.trim_cons first, ← List.append_assoc, Text.trimEnd_append_cons solid]
      simp

theorem dropStart?_unmarked (valid : isName name = true)
    (clear : ¬ (name = "export".toList ∧ layout.gap.head? = some ' ')) (text : List Char) :
    Text.dropStart? "export ".toList (name ++ (layout.gap ++ '=' :: text)) = none := by
  cases found : Text.dropStart? "export ".toList (name ++ (layout.gap ++ '=' :: text)) with
  | none => rfl
  | some rest =>
    have same := Text.eq_append_of_dropStart? found
    -- Both sides begin with a word, which the blank or the equals sign after it ends.
    have word : name = "export".toList := by
      have ends : (layout.gap ++ '=' :: text).takeWhile Text.isPlainWordChar = [] := by
        cases gap : layout.gap with
        | nil => rfl
        | cons c others =>
          have blank : Text.isBlank c = true := isBlank_gap (gap ▸ List.mem_cons_self)
          have other : ¬ Text.isPlainWordChar c = true := by
            intro plain
            rw [Text.isBlank_of_isPlainWordChar plain] at blank
            cases blank
          rw [List.cons_append, List.takeWhile_cons_of_neg other]
      have words := congrArg (List.takeWhile Text.isPlainWordChar) same
      rw [List.takeWhile_append_of_pos (plain_of_isName valid), ends, List.append_nil] at words
      rw [words]
      rfl
    have rest : layout.gap ++ '=' :: text = ' ' :: rest := by
      rw [word] at same
      exact List.append_cancel_left (same.trans (List.append_assoc "export".toList [' '] rest))
    refine absurd ⟨word, ?_⟩ clear
    cases gap : layout.gap with
    | nil =>
      rw [gap] at rest
      cases rest
    | cons c others =>
      rw [gap, List.cons_append] at rest
      cases rest
      rfl

theorem statement_line (valid : isName name = true) (clear : ¬ layout.Hides name) (text : List Char) :
    statement (layout.line name text) =
      (if layout.exported then layout.lead else []) ++ (name ++ (layout.gap ++ '=' :: Text.trimEnd text)) := by
  rw [statement, trim_line valid]
  by_cases marked : layout.exported = true
  · rw [if_pos marked, if_pos marked, List.append_assoc, Text.dropStart?_append]
    rfl
  · rw [if_neg marked, if_neg marked, List.nil_append, dropStart?_unmarked valid]
    · rfl
    · exact fun hidden => clear ⟨by simpa using marked, hidden⟩

theorem not_isSilent_line (valid : isName name = true) (text : List Char) : ¬ IsSilent (layout.line name text) := by
  rw [IsSilent, trim_line valid]
  cases name with
  | nil => cases valid
  | cons c rest =>
    have other : c ≠ '#' := by
      rintro rfl
      cases plain_of_isName valid '#' List.mem_cons_self
    split <;> simp [other]

theorem assigns_line (valid : isName name = true) (clear : ¬ layout.Hides name) (text : List Char) :
    Assigns (layout.line name text) name (Text.trimEnd text) := by
  have plain := plain_of_isName valid
  refine ⟨not_isSilent_line valid text, valid, (if layout.exported then layout.lead else []) ++ (name ++ layout.gap),
    ?_, ?_, ?_⟩
  · intro member
    simp only [List.mem_append] at member
    rcases member with lead | named | gap
    · split at lead
      · cases isBlank_lead lead
      · cases lead
    · cases plain '=' named
    · cases isBlank_gap gap
  · have blank : ∀ c ∈ (if layout.exported then layout.lead else []), Text.isBlank c = true := by
      split
      · exact fun c => isBlank_lead
      · simp
    rw [Text.trim_append blank, Text.trim_append_right fun c => isBlank_gap]
    exact Text.trim_of_solid fun c member => Text.isBlank_of_isPlainWordChar (plain c member)
  · rw [statement_line valid clear]
    simp

theorem not_mem_line (valid : isName name = true) {text : List Char} (single : '\n' ∉ text) :
    '\n' ∉ layout.line name text := by
  have blank (c : Char) (member : c ∈ layout.before ++ layout.lead ++ layout.gap) : c ≠ '\n' :=
    (isMargin_iff.mp layout.blank c member).2
  have named : '\n' ∉ name := by
    intro member
    cases plain_of_isName valid '\n' member
  have front : '\n' ∉ layout.front := by
    have lead : '\n' ∉ layout.lead := fun member => blank '\n' (by simp [member]) rfl
    rw [Layout.front]
    split
    · simp [lead]
    · exact lead
  have before : '\n' ∉ layout.before := fun member => blank '\n' (by simp [member]) rfl
  have gap : '\n' ∉ layout.gap := fun member => blank '\n' (by simp [member]) rfl
  simp [line, before, front, named, gap, single]

theorem valueOf_trimEnd (text : List Char) : valueOf (Text.trimEnd text) = valueOf text := by
  unfold valueOf
  rw [Text.trim_trimEnd]

theorem readLine_line (valid : isName name = true) (clear : ¬ layout.Hides name) (text : List Char) :
    readLine (layout.line name text) = .assignment name (valueOf text) := by
  rw [readLine_of_assigns (assigns_line valid clear text), valueOf_trimEnd]

theorem readLine_of_hides (hidden : layout.Hides name) (text : List Char) :
    readLine (layout.line name text) = .fault "Invalid variable name: \"\"" := by
  obtain ⟨unmarked, rfl, spaced⟩ := hidden
  obtain ⟨rest, gap⟩ : ∃ rest, layout.gap = ' ' :: rest := by
    cases gap : layout.gap with
    | nil =>
      rw [gap] at spaced
      cases spaced
    | cons c rest =>
      rw [gap] at spaced
      cases spaced
      exact ⟨rest, rfl⟩
  have blank (c : Char) (member : c ∈ rest) : Text.isBlank c = true :=
    isBlank_gap (gap ▸ List.mem_cons_of_mem ' ' member)
  have absent : '=' ∉ rest := by
    intro member
    cases blank '=' member
  have nameless : Text.trim rest = [] := by
    have trimmed := Text.trim_append blank []
    rw [List.append_nil] at trimmed
    exact trimmed
  have valid : isName "export".toList = true := by decide
  have said : statement (layout.line "export".toList text) = rest ++ '=' :: Text.trimEnd text := by
    have marked : "export".toList ++ (' ' :: rest ++ '=' :: Text.trimEnd text) =
        "export ".toList ++ (rest ++ '=' :: Text.trimEnd text) := rfl
    rw [statement, trim_line valid, unmarked, gap, if_neg Bool.false_ne_true, List.nil_append, marked,
      Text.dropStart?_append]
    rfl
  rw [readLine_eq (not_isSilent_line valid text), said, Text.cut?_append absent]
  simp only
  rw [nameless]
  rfl

end Layout
end EnvAudit.Declaration
