import EnvAudit.Editor.Buffer
import EnvAudit.Proofs.Text.Lines
import Mathlib.Data.List.TakeWhile

/-! Edits of a buffer splice. Every position stands for one cut of the buffer, and the cut before a text has the
position that the text ends at; so a change between two positions replaces exactly what stands between their cuts. -/
namespace EnvAudit.Editor
open Text (lines lastLine)

/-- The position at the end of a text: its number of line feeds, and the length of its last line. -/
def Position.after (text : List Char) : Position := ⟨text.count '\n', (lastLine text).length⟩

/-- Whether a position stands for the cut of a buffer into two parts. It does so when the first part ends there, when
it is beyond the line that the first part ends, or when it is on a line beyond the first part's last one and nothing
is left. -/
inductive Position.Cuts (position : Position) (front rest : List Char) : Prop
  | within (same : position = .after front)
  | beyondLine (line : position.line = (after front).line) (beyond : (after front).character < position.character)
      (ends : ∀ c ∈ rest.head?, c = '\n')
  | beyondLast (beyond : (after front).line < position.line) (ends : rest = [])

/-- What some changes make of a buffer, one after another: each either gives the whole buffer, or puts its text between
the cuts of its span in the buffer that the one before left. -/
inductive Edited : List Char → List Change → List Char → Prop
  | done (buffer : List Char) : Edited buffer [] buffer
  | whole {buffer text result : List Char} {changes : List Change} (later : Edited text changes result) :
      Edited buffer (⟨text, none⟩ :: changes) result
  | part {front rest front' rest' text result : List Char} {span : Span} {changes : List Change}
      (start : span.start.Cuts front rest) (stop : span.stop.Cuts front' rest') (same : front ++ rest = front' ++ rest')
      (later : Edited (front ++ text ++ rest') changes result) :
      Edited (front ++ rest) (⟨text, some span⟩ :: changes) result

section Extent

theorem extent_cons (line : List Char) (rest : List (List Char)) :
    extent (line :: rest) = line.length + 1 + extent rest := by
  have shifted (start : Nat) (items : List (List Char)) :
      items.foldl (fun total line => total + line.length + 1) start =
        start + items.foldl (fun total line => total + line.length + 1) 0 := by
    induction items generalizing start with
    | nil => rfl
    | cons item items ih =>
      rw [List.foldl_cons, List.foldl_cons, ih, ih (0 + item.length + 1)]
      omega
  rw [extent, List.foldl_cons, shifted, extent]
  omega

theorem extent_lines (text : List Char) : extent (lines text) = text.length + 1 := by
  induction text with
  | nil => rfl
  | cons c text ih =>
    rw [lines] at ih
    rw [lines, Text.pieces]
    split
    · rw [extent_cons, ih]
      simp
      omega
    · cases found : Text.pieces '\n' text with
      | nil => exact absurd found (Text.pieces_ne_nil _ _)
      | cons first others =>
        rw [found, extent_cons] at ih
        rw [extent_cons]
        simp
        omega

theorem length_lines (text : List Char) : (lines text).length = text.count '\n' + 1 := by
  induction text with
  | nil => rfl
  | cons c text ih =>
    rw [lines] at ih
    rw [lines, Text.pieces]
    split
    · next same => rw [List.length_cons, ih, same, List.count_cons_self]
    · next other =>
      rw [List.count_cons_of_ne other]
      cases found : Text.pieces '\n' text with
      | nil => exact absurd found (Text.pieces_ne_nil _ _)
      | cons first others => rw [← ih, found]; rfl

theorem lastLine_cases (text : List Char) :
    lastLine text = text ∧ '\n' ∉ text ∨ ∃ front, text = front ++ '\n' :: lastLine text := by
  induction text with
  | nil => exact .inl ⟨rfl, List.not_mem_nil⟩
  | cons c text ih =>
    rcases ih with ⟨whole, single⟩ | ⟨front, split⟩
    · by_cases same : c = '\n'
      · rw [same, Text.lastLine_line_feed]
        exact .inr ⟨[], by rw [whole]; rfl⟩
      · have single : '\n' ∉ c :: text := List.not_mem_cons_of_ne_of_not_mem (Ne.symm same) single
        exact .inl ⟨Text.lastLine_of_not_mem single, single⟩
    · have member : '\n' ∈ text := by
        rw [split]
        simp
      rw [Text.lastLine_cons_of_mem member]
      exact .inr ⟨c :: front, by rw [List.cons_append, ← split]⟩

theorem extent_take_lines (front rest : List Char) :
    extent ((lines (front ++ rest)).take (front.count '\n')) + (lastLine front).length = front.length := by
  rcases lastLine_cases front with ⟨whole, single⟩ | ⟨before, split⟩
  · rw [List.count_eq_zero.mpr single, whole]
    exact Nat.zero_add _
  · have single : '\n' ∉ lastLine front := by
      intro member
      simpa using List.mem_takeWhile_imp (List.mem_reverse.mp member)
    have count : front.count '\n' = (lines before).length := by
      rw [split, List.count_append, List.count_cons_self, List.count_eq_zero.mpr single, length_lines]
    have cut : lines (front ++ rest) = lines before ++ lines (lastLine front ++ rest) := by
      conv_lhs => rw [split]
      rw [List.append_assoc]
      exact Text.pieces_append '\n' before _
    rw [count, cut, List.take_left, extent_lines]
    conv_rhs => rw [split]
    rw [List.length_append, List.length_cons]
    omega

end Extent

section Cut
variable {position : Position} {front rest : List Char}

theorem offset_of_line (rest : List Char) (same : position.line = front.count '\n') :
    offset (lines (front ++ rest)) position + (lastLine front).length =
      front.length + min position.character ((lastLine front).length + (rest.takeWhile (· != '\n')).length) := by
  have taken := extent_take_lines front rest
  rw [offset, same, Text.lines_getElem?]
  dsimp only
  rw [List.length_append]
  omega

theorem offset_of_beyond {buffer : List Char} (beyond : buffer.count '\n' < position.line) :
    offset (lines buffer) position = buffer.length := by
  have none : (lines buffer)[position.line]? = none := by
    rw [List.getElem?_eq_none_iff, length_lines]
    exact beyond
  rw [offset, none]
  dsimp only
  rw [extent_lines, Nat.add_sub_cancel]

theorem Position.Cuts.offset_eq (cuts : position.Cuts front rest) :
    offset (lines (front ++ rest)) position = front.length := by
  cases cuts with
  | within same =>
    have counted := offset_of_line rest (congrArg Position.line same)
    rw [congrArg Position.character same, Position.after, Nat.min_eq_left (Nat.le_add_right _ _)] at counted
    exact Nat.add_right_cancel counted
  | beyondLine line beyond ends =>
    have counted := offset_of_line rest line
    have finished : rest.takeWhile (· != '\n') = [] := by
      cases rest with
      | nil => rfl
      | cons c rest => simp [ends c rfl]
    have reached : min position.character (lastLine front).length = (lastLine front).length :=
      Nat.min_eq_right (Nat.le_of_lt beyond)
    rw [finished, List.length_nil, Nat.add_zero, reached] at counted
    exact Nat.add_right_cancel counted
  | beyondLast beyond ends =>
    rw [ends, List.append_nil]
    exact offset_of_beyond beyond

theorem Position.after_line_feed (text : List Char) :
    after ('\n' :: text) = ⟨(after text).line + 1, (after text).character⟩ := by
  rw [after, List.count_cons_self, Text.lastLine_line_feed]
  rfl

theorem Position.after_cons_of_mem {text : List Char} {c : Char} (other : c ≠ '\n') (member : '\n' ∈ text) :
    after (c :: text) = after text := by
  rw [after, List.count_cons_of_ne other, Text.lastLine_cons_of_mem member, after]

theorem Position.after_of_not_mem {text : List Char} (single : '\n' ∉ text) : after text = ⟨0, text.length⟩ := by
  rw [after, List.count_eq_zero.mpr single, Text.lastLine_of_not_mem single]

theorem Position.Cuts.cons_line_feed {line character : Nat}
    (cuts : (⟨line, character⟩ : Position).Cuts front rest) :
    (⟨line + 1, character⟩ : Position).Cuts ('\n' :: front) rest := by
  cases cuts with
  | within same => exact .within (by rw [after_line_feed, ← same])
  | beyondLine here beyond ends =>
    refine .beyondLine ?_ ?_ ends
    · rw [after_line_feed]
      exact congrArg (· + 1) here
    · rw [after_line_feed]
      exact beyond
  | beyondLast beyond ends =>
    refine .beyondLast ?_ ends
    rw [after_line_feed]
    exact Nat.succ_lt_succ beyond

theorem Position.Cuts.cons_first {character : Nat} {c : Char} (other : c ≠ '\n')
    (cuts : (⟨0, character⟩ : Position).Cuts front rest) :
    (⟨0, character + 1⟩ : Position).Cuts (c :: front) rest := by
  have moved (here : 0 = (after front).line) : after (c :: front) = ⟨0, (after front).character + 1⟩ := by
    have single : '\n' ∉ front := List.count_eq_zero.mp here.symm
    rw [after_of_not_mem single, after_of_not_mem (List.not_mem_cons_of_ne_of_not_mem (Ne.symm other) single)]
    rfl
  cases cuts with
  | within same => exact .within (by rw [moved (congrArg line same), ← congrArg Position.character same])
  | beyondLine here beyond ends =>
    refine .beyondLine ?_ ?_ ends
    · rw [moved here]
    · rw [moved here]
      exact Nat.succ_lt_succ beyond
  | beyondLast beyond ends => exact absurd beyond (Nat.not_lt_zero _)

theorem Position.Cuts.cons_later {line character : Nat} {c : Char} (other : c ≠ '\n')
    (cuts : (⟨line + 1, character⟩ : Position).Cuts front rest) :
    (⟨line + 1, character⟩ : Position).Cuts (c :: front) rest := by
  have kept (here : line + 1 = (after front).line) : after (c :: front) = after front := by
    have member : '\n' ∈ front := List.count_pos_iff.mp (by rw [← show line + 1 = front.count '\n' from here]; omega)
    exact after_cons_of_mem other member
  cases cuts with
  | within same => exact .within (by rw [kept (congrArg Position.line same), same])
  | beyondLine here beyond ends => exact .beyondLine (by rw [kept here, here]) (by rw [kept here]; exact beyond) ends
  | beyondLast beyond ends =>
    refine .beyondLast ?_ ends
    rw [after, List.count_cons_of_ne other]
    exact beyond

theorem Position.exists_cuts (position : Position) (buffer : List Char) :
    ∃ front rest, buffer = front ++ rest ∧ position.Cuts front rest := by
  obtain ⟨line, character⟩ := position
  have foremost (character : Nat) (rest : List Char) (ends : ∀ c ∈ rest.head?, c = '\n') :
      (⟨0, character⟩ : Position).Cuts [] rest := by
    rcases Nat.eq_zero_or_pos character with rfl | beyond
    · exact .within rfl
    · exact .beyondLine rfl beyond ends
  induction buffer generalizing line character with
  | nil =>
    cases line with
    | zero => exact ⟨[], [], rfl, foremost character [] (by simp)⟩
    | succ line => exact ⟨[], [], rfl, .beyondLast (Nat.succ_pos line) rfl⟩
  | cons c buffer ih =>
    by_cases same : c = '\n'
    · subst same
      cases line with
      | zero => exact ⟨[], _, rfl, foremost character _ (by simp)⟩
      | succ line =>
        obtain ⟨front, rest, rfl, cuts⟩ := ih line character
        exact ⟨_, rest, rfl, cuts.cons_line_feed⟩
    · cases line with
      | zero =>
        cases character with
        | zero => exact ⟨[], _, rfl, .within rfl⟩
        | succ character =>
          obtain ⟨front, rest, rfl, cuts⟩ := ih 0 character
          exact ⟨_, rest, rfl, cuts.cons_first same⟩
      | succ line =>
        obtain ⟨front, rest, rfl, cuts⟩ := ih (line + 1) character
        exact ⟨_, rest, rfl, cuts.cons_later same⟩

end Cut

section Run
variable {buffer : List Char} {changes : List Change}

theorem applyChange_part {front rest front' rest' text : List Char} {span : Span} (start : span.start.Cuts front rest)
    (stop : span.stop.Cuts front' rest') (same : front ++ rest = front' ++ rest') :
    applyChange (front ++ rest) ⟨text, some span⟩ = front ++ text ++ rest' := by
  have first : offset (lines (front ++ rest)) span.start = front.length := start.offset_eq
  have second : offset (lines (front ++ rest)) span.stop = front'.length := same ▸ stop.offset_eq
  dsimp only [applyChange]
  rw [first, second, List.take_left, same, List.drop_left]

theorem applyChange_between (front middle rest text : List Char) :
    applyChange (front ++ middle ++ rest) ⟨text, some ⟨.after front, .after (front ++ middle)⟩⟩ =
      front ++ text ++ rest := by
  have same : front ++ (middle ++ rest) = front ++ middle ++ rest := (List.append_assoc _ _ _).symm
  rw [← same]
  exact applyChange_part (.within rfl) (.within rfl) same

theorem exists_edited (buffer : List Char) (change : Change) (changes : List Change) {result : List Char}
    (later : Edited (applyChange buffer change) changes result) : Edited buffer (change :: changes) result := by
  obtain ⟨text, span⟩ := change
  cases span with
  | none => exact .whole later
  | some span =>
    obtain ⟨front, rest, rfl, start⟩ := span.start.exists_cuts buffer
    obtain ⟨front', rest', same, stop⟩ := span.stop.exists_cuts (front ++ rest)
    rw [applyChange_part start stop same] at later
    exact .part start stop same later

theorem edited_applyChanges (buffer : List Char) (changes : List Change) :
    Edited buffer changes (applyChanges buffer changes) := by
  induction changes generalizing buffer with
  | nil => exact .done buffer
  | cons change changes ih => exact exists_edited buffer change changes (ih (applyChange buffer change))

theorem Edited.eq {result : List Char} (edited : Edited buffer changes result) :
    applyChanges buffer changes = result := by
  induction edited with
  | done buffer => rfl
  | whole later ih => exact ih
  | part start stop same later ih =>
    rw [← ih, applyChanges, List.foldl_cons, applyChange_part start stop same]
    rfl

end Run

/-- A change from the end of one text to the end of a longer one puts its text in place of the difference. Some changes
make of a buffer what they make of it one after another, each with the cuts that its span stands for in the buffer that
the one before left. -/
theorem applyChanges_splices :
    (∀ front middle rest text, applyChanges (front ++ middle ++ rest)
      [⟨text, some ⟨.after front, .after (front ++ middle)⟩⟩] = front ++ text ++ rest) ∧
    ∀ buffer changes result, applyChanges buffer changes = result ↔ Edited buffer changes result := by
  constructor
  · exact applyChange_between
  · intro buffer changes result
    constructor
    · rintro rfl
      exact edited_applyChanges buffer changes
    · exact Edited.eq

end EnvAudit.Editor
