import EnvAudit.Proofs.Declaration.Reading

/-! Every line of a declaration file stands for itself. Two texts one after the other give what each of them gives, the
second one with its line numbers moved on, and a text gives one item for every line that says something, under the
number of that line. Only a value that cannot be judged reaches beyond its line: it leaves the whole text without a
result. -/
namespace EnvAudit

namespace Declarations

def append (first second : Declarations) : Declarations :=
  ⟨first.declared ++ second.declared, first.faults ++ second.faults⟩

def shift (offset : Nat) (given : Declarations) : Declarations :=
  ⟨given.declared.map fun d => { d with line := d.line + offset },
    given.faults.map fun fault => { fault with line := fault.line + offset }⟩

def lineNumbers (given : Declarations) : List Nat :=
  given.declared.map (·.line) ++ given.faults.map (·.line)

theorem shift_append (offset : Nat) (first second : Declarations) :
    (first.append second).shift offset = (first.shift offset).append (second.shift offset) := by
  simp [append, shift]

theorem shift_shift (offset more : Nat) (given : Declarations) :
    (given.shift offset).shift more = given.shift (more + offset) := by
  simp [shift, Nat.add_assoc, Nat.add_comm offset]

end Declarations

namespace Declaration
open Declarations

section Lines
variable {file : String} {number : Nat} {line : List Char} {lines : List (List Char)} {rest result : Declarations}

theorem ofAssignment_shift (file : String) (number offset : Nat) (raw name value : List Char) :
    ofAssignment file (number + offset) raw name value =
      (ofAssignment file number raw name value).map fun d => { d with line := d.line + offset } := by
  unfold ofAssignment
  cases Shape.ofText value with
  | error failure => rfl
  | ok shape => simp only [bind, Except.bind, pure, Except.pure, Except.map]

theorem addLine_shift (file : String) (number offset : Nat) (line : List Char) (rest : Declarations) :
    addLine file (number + offset) line (rest.shift offset) = (addLine file number line rest).map (shift offset) := by
  unfold addLine
  cases readLine line with
  | nothing => rfl
  | fault message => rfl
  | assignment name value =>
    dsimp only
    rw [ofAssignment_shift]
    cases ofAssignment file number line name value <;> rfl

theorem ofLines_shift (file : String) (number offset : Nat) (lines : List (List Char)) :
    ofLines file (number + offset) lines = (ofLines file number lines).map (shift offset) := by
  induction lines generalizing number with
  | nil => rfl
  | cons line lines ih =>
    rw [ofLines, ofLines, Nat.add_right_comm, ih]
    cases ofLines file (number + 1) lines with
    | error failure => rfl
    | ok rest => exact addLine_shift file number offset line rest

theorem addLine_append (file : String) (number : Nat) (line : List Char) (rest more : Declarations) :
    addLine file number line (rest.append more) = (addLine file number line rest).map (append · more) := by
  unfold addLine
  cases readLine line with
  | nothing => rfl
  | fault message => rfl
  | assignment name value =>
    dsimp only
    cases ofAssignment file number line name value <;> rfl

theorem ofLines_append_eq_ok {file : String} {number : Nat} {first second : List (List Char)} {result : Declarations} :
    ofLines file number (first ++ second) = .ok result ↔
      ∃ before after, ofLines file number first = .ok before ∧
        ofLines file (number + first.length) second = .ok after ∧ result = before.append after := by
  induction first generalizing number result with
  | nil =>
    constructor
    · exact fun ok => ⟨⟨[], []⟩, result, rfl, ok, rfl⟩
    · rintro ⟨_, after, ⟨⟩, ok, rfl⟩
      exact ok
  | cons line lines ih =>
    rw [List.cons_append, List.length_cons, Nat.add_comm lines.length, ← Nat.add_assoc, ofLines, ofLines,
      Outcome.bind_eq_ok]
    constructor
    · rintro ⟨whole, read, added⟩
      obtain ⟨rest, after, early, late, rfl⟩ := ih.mp read
      rw [addLine_append] at added
      cases own : addLine file number line rest with
      | error failure =>
        rw [own] at added
        cases added
      | ok before =>
        rw [own] at added
        cases added
        exact ⟨before, after, Outcome.bind_eq_ok.mpr ⟨rest, early, own⟩, late, rfl⟩
    · rintro ⟨before, after, early, late, rfl⟩
      obtain ⟨rest, read, own⟩ := Outcome.bind_eq_ok.mp early
      refine ⟨rest.append after, ih.mpr ⟨rest, after, read, late, rfl⟩, ?_⟩
      rw [addLine_append, own]
      rfl

def Speaks (number : Nat) (lines : List (List Char)) (n : Nat) : Prop :=
  ∃ index line, n = number + index ∧ lines[index]? = some line ∧ ¬ IsSilent line

theorem speaks_cons {n : Nat} :
    Speaks number (line :: lines) n ↔ (n = number ∧ ¬ IsSilent line) ∨ Speaks (number + 1) lines n := by
  constructor
  · rintro ⟨index, own, rfl, placed, speaks⟩
    cases index with
    | zero =>
      cases placed
      exact .inl ⟨rfl, speaks⟩
    | succ index => exact .inr ⟨index, own, by omega, placed, speaks⟩
  · rintro (⟨rfl, speaks⟩ | ⟨index, own, rfl, placed, speaks⟩)
    · exact ⟨0, line, rfl, rfl, speaks⟩
    · exact ⟨index + 1, own, by omega, placed, speaks⟩

theorem Speaks.bounds {n : Nat} (speaks : Speaks number lines n) : number ≤ n ∧ n < number + lines.length := by
  obtain ⟨index, line, rfl, placed, _⟩ := speaks
  obtain ⟨bound, _⟩ := List.getElem?_eq_some_iff.mp placed
  omega

structure IsNumbered (number : Nat) (lines : List (List Char)) (result : Declarations) : Prop where
  distinct : result.lineNumbers.Nodup
  declared : (result.declared.map (·.line)).Pairwise (· < ·)
  faults : (result.faults.map (·.line)).Pairwise (· < ·)
  spoken : ∀ n, n ∈ result.lineNumbers ↔ Speaks number lines n

theorem Reports.isNumbered (reports : Reports file number lines result) : IsNumbered number lines result := by
  induction reports with
  | done => exact ⟨List.nodup_nil, .nil, .nil, fun n => by simp [lineNumbers, Speaks]⟩
  | silent silent _ ih =>
    exact ⟨ih.distinct, ih.declared, ih.faults, fun n => by rw [ih.spoken, speaks_cons]; simp [silent]⟩
  | @declares number line text lines rest declaration assigns _ numbered _ _ ih =>
    -- The lines after the first one have greater numbers.
    have later (n : Nat) (member : n ∈ rest.lineNumbers) : number < n := ((ih.spoken n).mp member).bounds.1
    have own : lineNumbers { rest with declared := declaration :: rest.declared } = number :: rest.lineNumbers := by
      rw [← numbered]
      rfl
    refine ⟨?_, ?_, ih.faults, fun n => ?_⟩
    · rw [own]
      exact ih.distinct.cons fun member => Nat.lt_irrefl number (later number member)
    · rw [List.map_cons, numbered]
      exact ih.declared.cons fun n member => later n (List.mem_append_left _ member)
    · rw [own, List.mem_cons, ih.spoken, speaks_cons]
      simp [assigns.speaks]
  | @malformed number line lines rest malformed message told _ ih =>
    have later (n : Nat) (member : n ∈ rest.lineNumbers) : number < n := ((ih.spoken n).mp member).bounds.1
    have own : (lineNumbers { rest with faults := ⟨number, message, some file⟩ :: rest.faults }).Perm
        (number :: rest.lineNumbers) := List.perm_middle
    refine ⟨?_, ih.declared, ?_, fun n => ?_⟩
    · exact own.nodup_iff.mpr (ih.distinct.cons fun member => Nat.lt_irrefl number (later number member))
    · exact ih.faults.cons fun n member => later n (List.mem_append_right _ member)
    · rw [own.mem_iff, List.mem_cons, ih.spoken, speaks_cons]
      simp [malformed.speaks]

end Lines

theorem parse_append_eq_ok {file : String} {first second : List Char} {result : Declarations} :
    parse (first ++ '\n' :: second) file = .ok result ↔
      ∃ before after, parse first file = .ok before ∧ parse second file = .ok after ∧
        result = before.append (after.shift (Text.lines first).length) := by
  rw [parse, Text.lines, Text.pieces_append, ofLines_append_eq_ok, ofLines_shift]
  constructor
  · rintro ⟨before, _, early, late, rfl⟩
    cases own : ofLines file 1 (Text.pieces '\n' second) with
    | error failure =>
      rw [own] at late
      cases late
    | ok after =>
      rw [own] at late
      cases late
      exact ⟨before, after, early, own, rfl⟩
  · rintro ⟨before, after, early, late, rfl⟩
    refine ⟨before, _, early, ?_, rfl⟩
    rw [parse, Text.lines] at late
    rw [late]
    rfl

theorem isMalformed_of_fault {line : List Char} {message : String} (read : readLine line = .fault message) :
    IsMalformed line := by
  rcases readLine_cases line with ⟨_, silent⟩ | ⟨name, text, _, assigns⟩ | ⟨malformed, _⟩
  · cases read.symm.trans silent
  · cases read.symm.trans assigns
  · exact malformed

theorem parse_malformed {line : List Char} (single : '\n' ∉ line) (malformed : IsMalformed line) (file : String) :
    ∃ message, parse line file = .ok ⟨[], [⟨1, message, some file⟩]⟩ := by
  rcases readLine_cases line with ⟨silent, _⟩ | ⟨name, text, assigns, _⟩ | ⟨_, message, read⟩
  · exact absurd silent malformed.speaks
  · exact absurd assigns (malformed.nameless name text)
  · refine ⟨message, ?_⟩
    rw [parse, Text.lines, Text.pieces_of_not_mem single]
    simp only [ofLines, addLine, read, bind, Except.bind]

/-- Whether the lines of texts are read apart. A text that is put together from two by a line feed has a result exactly
when both have one, and then it gives what they give, the second one under the numbers after the lines of the first one.
So a malformed line leaves what the lines around it give as it is. A text has a result exactly when all its lines can be
judged, and the result tells something about every line that is neither blank nor a comment, once and in the order of the
lines. -/
structure ReadsLinesApart (file : String) : Prop where
  joined : ∀ first second result, parse (first ++ '\n' :: second) file = .ok result ↔
    ∃ before after, parse first file = .ok before ∧ parse second file = .ok after ∧
      result = before.append (after.shift (Text.lines first).length)
  malformed : ∀ first line second result, '\n' ∉ line → IsMalformed line →
    parse (first ++ '\n' :: (line ++ '\n' :: second)) file = .ok result →
    ∃ before after message, parse first file = .ok before ∧ parse second file = .ok after ∧
      result.declared = before.declared ++ (after.shift ((Text.lines first).length + 1)).declared ∧
      result.faults = before.faults ++ ⟨(Text.lines first).length + 1, message, some file⟩ ::
        (after.shift ((Text.lines first).length + 1)).faults
  returns : ∀ text, Returns (parse text file) ↔ ∀ line ∈ Text.lines text, IsJudgeable line
  numbered : ∀ text result, parse text file = .ok result → IsNumbered 1 (Text.lines text) result ∧
    ∀ n ∈ result.lineNumbers, 1 ≤ n ∧ n ≤ (Text.lines text).length

theorem parse_lines_apart (file : String) : ReadsLinesApart file := by
  refine ⟨fun first second result => parse_append_eq_ok, fun first line second result single malformed ok => ?_,
    fun text => ofLines_returns, fun text result ok => ?_⟩
  · obtain ⟨before, rest, early, later, rfl⟩ := parse_append_eq_ok.mp ok
    obtain ⟨own, after, told, late, rfl⟩ := parse_append_eq_ok.mp later
    obtain ⟨message, fault⟩ := parse_malformed single malformed file
    cases told.symm.trans fault
    have lines : (Text.lines line).length = 1 := by
      rw [Text.lines, Text.pieces_of_not_mem single, List.length_singleton]
    rw [shift_append, shift_shift, lines]
    refine ⟨before, after, message, early, late, rfl, ?_⟩
    rw [← Nat.add_comm 1]
    rfl
  · have numbered := (reports_of_ofLines ok).isNumbered
    refine ⟨numbered, fun n member => ?_⟩
    have bounds := ((numbered.spoken n).mp member).bounds
    omega

theorem parse_lines_apart_sample :
    ∃ before after message, parse "A=\"1".toList ".env" = .ok before ∧ parse "#\nC=2".toList ".env" = .ok after ∧
      before.declared ++ (after.shift 2).declared = [⟨"A", "\"1", 1, ".env", false, some .string, some "A=\"1"⟩,
        ⟨"C", "2", 4, ".env", false, some .number, some "C=2"⟩] ∧
      before.faults ++ ⟨2, message, some ".env"⟩ :: (after.shift 2).faults =
        [⟨2, "Invalid format: missing '=' sign", some ".env"⟩] := by
  have ok : parse "A=\"1\nB\n#\nC=2".toList ".env" = .ok
      ⟨[⟨"A", "\"1", 1, ".env", false, some .string, some "A=\"1"⟩,
        ⟨"C", "2", 4, ".env", false, some .number, some "C=2"⟩],
        [⟨2, "Invalid format: missing '=' sign", some ".env"⟩]⟩ :=
    Outcome.eq_ok_of_toOption (by decide +kernel)
  obtain ⟨before, after, message, early, late, declared, faults⟩ := (parse_lines_apart ".env").malformed
    "A=\"1".toList "B".toList "#\nC=2".toList _ (by decide) (isMalformed_of_fault rfl) ok
  exact ⟨before, after, message, early, late, declared.symm, faults.symm⟩

end Declaration
end EnvAudit
