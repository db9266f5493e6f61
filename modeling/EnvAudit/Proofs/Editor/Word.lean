import EnvAudit.Editor.Word
import Mathlib.Data.List.DropRight

/-! The word at the cursor is the maximal one. A line is cut at the cursor, and the word characters on both sides of
the cut make up the only run there that cannot be made longer. The cursor finds the same word from every place in it
and from its ends, and it finds none exactly when it stands between characters of other kinds. -/
namespace EnvAudit.Editor

/-- Whether a word is what stands in a line between its places, and word characters neither come before it nor go
on after it. -/
structure Word.IsMaximal (word : Word) (line front rest : List Char) : Prop where
  cut : line = front ++ word.text ++ rest
  start : word.start = front.length
  stop : word.stop = front.length + word.text.length
  inhabited : word.text ≠ []
  inside : ∀ c ∈ word.text, Text.isWordChar c = true
  starts : ∀ c ∈ front.getLast?, Text.isWordChar c = false
  ends : ∀ c ∈ rest.head?, Text.isWordChar c = false

def isWordAt (text : List Char) (place : Nat) : Bool := text[place]?.any Text.isWordChar

def IsBeside (line : List Char) (position : Nat) : Prop :=
  (∃ place, place + 1 = position ∧ isWordAt line place = true) ∨ isWordAt line position = true

section Cut
variable {front before after rest : List Char}

theorem takeWhile_eq_nil (ends : ∀ c ∈ rest.head?, Text.isWordChar c = false) :
    rest.takeWhile Text.isWordChar = [] := by
  cases rest with
  | nil => rfl
  | cons c rest => rw [List.takeWhile_cons_of_neg (by simp [ends c rfl])]

theorem wordBefore_cut (inside : ∀ c ∈ before, Text.isWordChar c = true)
    (starts : ∀ c ∈ front.getLast?, Text.isWordChar c = false) (rest : List Char) :
    wordBefore (front ++ before ++ rest) (front ++ before).length = before.length := by
  have reversed : ∀ c ∈ before.reverse, Text.isWordChar c = true := by simpa using inside
  have stops : front.reverse.takeWhile Text.isWordChar = [] := takeWhile_eq_nil (by simpa using starts)
  rw [wordBefore, List.take_left, List.reverse_append, List.takeWhile_append_of_pos reversed, stops, List.append_nil,
    List.length_reverse]

theorem wordAfter_cut (inside : ∀ c ∈ after, Text.isWordChar c = true)
    (ends : ∀ c ∈ rest.head?, Text.isWordChar c = false) (front : List Char) :
    wordAfter (front ++ (after ++ rest)) front.length = after.length := by
  rw [wordAfter, List.drop_left, List.takeWhile_append_of_pos inside, takeWhile_eq_nil ends, List.append_nil]

theorem wordAt?_cut (inside : ∀ c ∈ before ++ after, Text.isWordChar c = true)
    (starts : ∀ c ∈ front.getLast?, Text.isWordChar c = false)
    (ends : ∀ c ∈ rest.head?, Text.isWordChar c = false) :
    wordAt? (front ++ before ++ (after ++ rest)) (front ++ before).length =
      if before ++ after = [] then none
      else some ⟨before ++ after, front.length, front.length + (before ++ after).length⟩ := by
  obtain ⟨early, late⟩ := List.forall_mem_append.mp inside
  have within : ¬ (front ++ before ++ (after ++ rest)).length < (front ++ before).length := by simp
  have start : (front ++ before).length - before.length = front.length := by simp
  have stop : (front ++ before).length + after.length = (front ++ (before ++ after)).length := by simp; omega
  have text : ((front ++ before ++ (after ++ rest)).take (front ++ (before ++ after)).length).drop front.length =
      before ++ after := by
    have regrouped : front ++ before ++ (after ++ rest) = front ++ (before ++ after) ++ rest := by simp
    rw [regrouped, List.take_left, List.drop_left]
  rw [wordAt?, if_neg within, wordBefore_cut early starts, wordAfter_cut late ends]
  dsimp only
  rw [start, stop, text]
  by_cases empty : before ++ after = []
  · rw [if_pos empty, if_pos (by simp [empty])]
  · have inhabited := List.length_pos_iff.mpr empty
    have differs : ¬ (front.length == (front ++ (before ++ after)).length) = true := by
      rw [beq_iff_eq, List.length_append]
      omega
    rw [if_neg empty, if_neg differs, List.length_append, Int.natCast_add]

/-- Every cut stands between two runs of word characters, either of which may be empty, that no word character
continues. -/
theorem exists_runs (before after : List Char) : ∃ front early late rest, before = front ++ early ∧
    after = late ++ rest ∧ (∀ c ∈ early ++ late, Text.isWordChar c = true) ∧
    (∀ c ∈ front.getLast?, Text.isWordChar c = false) ∧ ∀ c ∈ rest.head?, Text.isWordChar c = false := by
  refine ⟨before.rdropWhile Text.isWordChar, before.rtakeWhile Text.isWordChar, after.takeWhile Text.isWordChar,
    after.dropWhile Text.isWordChar, List.rdropWhile_append_rtakeWhile.symm, List.takeWhile_append_dropWhile.symm,
    List.forall_mem_append.mpr ⟨fun c => List.mem_rtakeWhile_imp, fun c => List.mem_takeWhile_imp⟩, ?_, ?_⟩
  · intro c last
    have head := List.head?_dropWhile_not Text.isWordChar before.reverse
    rw [List.rdropWhile, List.getLast?_reverse] at last
    rw [Option.mem_def.mp last] at head
    simpa using head
  · intro c first
    have head := List.head?_dropWhile_not Text.isWordChar after
    rw [Option.mem_def.mp first] at head
    simpa using head

theorem isBeside_cut (before after : List Char) :
    IsBeside (before ++ after) before.length ↔
      before.getLast?.any Text.isWordChar = true ∨ after.head?.any Text.isWordChar = true := by
  have next : isWordAt (before ++ after) before.length = after.head?.any Text.isWordChar := by
    rw [isWordAt, List.getElem?_append_right (Nat.le_refl _), Nat.sub_self, List.head?_eq_getElem?]
  have last (place : Nat) (same : place + 1 = before.length) :
      isWordAt (before ++ after) place = before.getLast?.any Text.isWordChar := by
    rw [isWordAt, List.getElem?_append_left (by omega), List.getLast?_eq_getElem?, ← same, Nat.add_sub_cancel]
  rw [IsBeside, next]
  refine or_congr ⟨?_, fun found => ?_⟩ Iff.rfl
  · rintro ⟨place, same, found⟩
    exact last place same ▸ found
  · cases before with
    | nil => cases found
    | cons c before => exact ⟨before.length, rfl, (last _ rfl).trans found⟩

theorem isBeside_runs (inside : ∀ c ∈ before ++ after, Text.isWordChar c = true)
    (starts : ∀ c ∈ front.getLast?, Text.isWordChar c = false)
    (ends : ∀ c ∈ rest.head?, Text.isWordChar c = false) :
    IsBeside (front ++ before ++ (after ++ rest)) (front ++ before).length ↔ before ++ after ≠ [] := by
  have wordless {c? : Option Char} (other : ∀ c ∈ c?, Text.isWordChar c = false) :
      c?.any Text.isWordChar = false := by
    cases c? with
    | none => rfl
    | some c => exact other c rfl
  rw [isBeside_cut, Ne, List.append_eq_nil_iff, Decidable.not_and_iff_or_not]
  obtain ⟨early, late⟩ := List.forall_mem_append.mp inside
  refine or_congr ?_ ?_
  · rcases List.eq_nil_or_concat before with rfl | ⟨others, c, rfl⟩
    · simp [wordless starts]
    · simp [early c (by simp)]
  · cases after with
    | nil => simp [wordless ends]
    | cons c others => simp [late c List.mem_cons_self]

end Cut

section Exact
variable {line : List Char} {position : Nat} {word : Word}

theorem wordAt?_of_beyond (beyond : line.length < position) : wordAt? line position = none := by
  rw [wordAt?, if_pos beyond]

theorem not_isBeside_of_beyond (beyond : line.length < position) : ¬ IsBeside line position := by
  have absent {place : Nat} (far : line.length ≤ place) : isWordAt line place = false := by
    rw [isWordAt, List.getElem?_eq_none far]
    rfl
  rintro (⟨place, same, found⟩ | found)
  · rw [absent (by omega)] at found
    cases found
  · rw [absent (by omega)] at found
    cases found

theorem Word.IsMaximal.wordAt? {front rest : List Char} (maximal : word.IsMaximal line front rest)
    (least : word.start ≤ position) (greatest : position ≤ word.stop) : wordAt? line position = some word := by
  obtain ⟨text, _, _⟩ := word
  obtain ⟨cut, start, stop, inhabited, inside, starts, ends⟩ := maximal
  dsimp only at *
  subst cut start stop
  obtain ⟨count, rfl⟩ : ∃ count, position = front.length + count := Nat.exists_eq_add_of_le (by omega)
  have parts := List.take_append_drop count text
  have place : front.length + count = (front ++ text.take count).length := by
    rw [List.length_append, List.length_take_of_le (by omega)]
  have whole : front ++ text.take count ++ (text.drop count ++ rest) = front ++ text ++ rest := by
    rw [← List.append_assoc, List.append_assoc front, parts]
  have found := wordAt?_cut (parts.symm ▸ inside) starts ends
  rwa [parts, if_neg inhabited, ← place, whole] at found

theorem wordAt?_cases (within : position ≤ line.length) :
    (wordAt? line position = none ∧ ¬ IsBeside line position) ∨
    (IsBeside line position ∧ ∃ word, wordAt? line position = some word ∧
      (∃ front rest, word.IsMaximal line front rest) ∧ word.start ≤ position ∧ position ≤ word.stop) := by
  obtain ⟨front, early, late, rest, before, after, inside, starts, ends⟩ :=
    exists_runs (line.take position) (line.drop position)
  have place : position = (front ++ early).length := by rw [← before, List.length_take_of_le within]
  have whole : line = front ++ early ++ (late ++ rest) := by rw [← before, ← after, List.take_append_drop]
  have found := wordAt?_cut inside starts ends
  have beside := isBeside_runs inside starts ends
  rw [← whole, ← place] at found beside
  by_cases empty : early ++ late = []
  · rw [if_pos empty] at found
    exact .inl ⟨found, fun touched => beside.mp touched empty⟩
  · rw [if_neg empty] at found
    refine .inr ⟨beside.mpr empty, _, found, ⟨front, rest, ?_, rfl, rfl, empty, inside, starts, ends⟩, ?_, ?_⟩
    · rw [whole]
      simp
    · dsimp only
      rw [place, List.length_append]
      omega
    · dsimp only
      rw [place, List.length_append, List.length_append]
      omega

theorem wordAt?_eq_some_iff : wordAt? line position = some word ↔
    (∃ front rest, word.IsMaximal line front rest) ∧ word.start ≤ position ∧ position ≤ word.stop := by
  constructor
  · intro own
    by_cases within : position ≤ line.length
    · rcases wordAt?_cases within with ⟨nothing, _⟩ | ⟨_, other, same, around⟩
      · rw [own] at nothing
        cases nothing
      · rw [own] at same
        cases same
        exact around
    · rw [wordAt?_of_beyond (by omega)] at own
      cases own
  · rintro ⟨⟨front, rest, maximal⟩, least, greatest⟩
    exact maximal.wordAt? least greatest

theorem wordAt?_eq_none_iff : wordAt? line position = none ↔ ¬ IsBeside line position := by
  by_cases within : position ≤ line.length
  · rcases wordAt?_cases within with ⟨nothing, apart⟩ | ⟨beside, word, same, _⟩
    · exact iff_of_true nothing apart
    · exact iff_of_false (by simp [same]) (not_not_intro beside)
  · exact iff_of_true (wordAt?_of_beyond (by omega)) (not_isBeside_of_beyond (by omega))

/-- The word at a position of a line is the maximal word that the position is in or at an end of, so that it is the
same from all of its positions. There is none exactly when no word character stands beside the position, and so none
beyond the line. -/
theorem maximal_word_exact (line : List Char) (position : Nat) :
    (wordAt? line position = none ↔ ¬ IsBeside line position) ∧
    (line.length < position → wordAt? line position = none) ∧
    (∀ word, wordAt? line position = some word ↔
      (∃ front rest, word.IsMaximal line front rest) ∧ word.start ≤ position ∧ position ≤ word.stop) ∧
    ∀ word, wordAt? line position = some word →
      ∀ other : Nat, word.start ≤ other → other ≤ word.stop → wordAt? line other = some word := by
  refine ⟨wordAt?_eq_none_iff, wordAt?_of_beyond, fun _ => wordAt?_eq_some_iff, ?_⟩
  intro word own other least greatest
  obtain ⟨maximal, _⟩ := wordAt?_eq_some_iff.mp own
  exact wordAt?_eq_some_iff.mpr ⟨maximal, least, greatest⟩

example : wordAt? "process.env.API_URL".toList 19 = some ⟨"API_URL".toList, 12, 19⟩ := by decide

end Exact
end EnvAudit.Editor
