import EnvAudit.Proofs.Text.Basic
import EnvAudit.Text.Utf8

/-! The last line of a text and what the text goes on with: together they are a line of the whole. A line takes as many
bytes as it has characters only when all of them are ASCII. -/
namespace EnvAudit.Text

def lastLine (text : List Char) : List Char := (text.reverse.takeWhile (· != '\n')).reverse

theorem takeWhile_line {text : List Char} (single : '\n' ∉ text) (rest : List Char) :
    (text ++ rest).takeWhile (· != '\n') = text ++ rest.takeWhile (· != '\n') :=
  List.takeWhile_append_of_pos fun _ member => bne_iff_ne.mpr (ne_of_mem_of_not_mem member single)

theorem takeWhile_append_of_line_feed {text : List Char} (member : '\n' ∈ text) (rest : List Char) :
    (text ++ rest).takeWhile (· != '\n') = text.takeWhile (· != '\n') := by
  obtain ⟨first, second, rfl, single⟩ := List.eq_append_cons_of_mem member
  rw [List.append_assoc, takeWhile_line single, takeWhile_line single]
  rfl

theorem lastLine_concat (text : List Char) (c : Char) :
    lastLine (text ++ [c]) = if c = '\n' then [] else lastLine text ++ [c] := by
  rw [lastLine, List.reverse_append, List.reverse_singleton, List.singleton_append]
  split
  · next same => rw [same]; rfl
  · next other =>
    have kept := takeWhile_line (by simpa using Ne.symm other : '\n' ∉ [c]) text.reverse
    rw [List.singleton_append] at kept
    rw [kept, List.singleton_append, List.reverse_cons, lastLine]

theorem lastLine_of_not_mem {text : List Char} (single : '\n' ∉ text) : lastLine text = text := by
  have reversed : '\n' ∉ text.reverse := fun member => single (List.mem_reverse.mp member)
  have kept := takeWhile_line reversed []
  rw [List.append_nil, List.takeWhile_nil, List.append_nil] at kept
  rw [lastLine, kept, List.reverse_reverse]

theorem lastLine_cons_of_mem {text : List Char} (member : '\n' ∈ text) (c : Char) :
    lastLine (c :: text) = lastLine text := by
  rw [lastLine, List.reverse_cons, takeWhile_append_of_line_feed (List.mem_reverse.mpr member), lastLine]

theorem lastLine_line_feed (text : List Char) : lastLine ('\n' :: text) = lastLine text := by
  by_cases member : '\n' ∈ text
  · exact lastLine_cons_of_mem member _
  · have reversed : '\n' ∉ text.reverse := fun found => member (List.mem_reverse.mp found)
    rw [lastLine, List.reverse_cons, takeWhile_line reversed, lastLine_of_not_mem member]
    simp

theorem head?_lines (text : List Char) : (lines text).head? = some (text.takeWhile (· != '\n')) := by
  induction text with
  | nil => rfl
  | cons c text ih =>
    rw [lines, pieces]
    split
    · next same => rw [same]; rfl
    · next other =>
      have kept := takeWhile_line (by simpa using Ne.symm other : '\n' ∉ [c]) text
      rw [List.singleton_append, List.singleton_append] at kept
      rw [kept]
      rw [lines] at ih
      cases found : pieces '\n' text with
      | nil => exact absurd found (pieces_ne_nil _ _)
      | cons first others =>
        rw [found] at ih
        cases ih
        rfl

theorem lines_getElem? (before after : List Char) :
    (lines (before ++ after))[before.count '\n']? = some (lastLine before ++ after.takeWhile (· != '\n')) := by
  induction before with
  | nil =>
    rw [List.nil_append, List.count_nil, ← List.head?_eq_getElem?]
    exact head?_lines after
  | cons c before ih =>
    rw [List.cons_append, lines, pieces]
    split
    · next same =>
      rw [same, lastLine_line_feed, List.count_cons_self, List.getElem?_cons_succ]
      exact ih
    · next other =>
      rw [List.count_cons_of_ne other]
      cases found : pieces '\n' (before ++ after) with
      | nil => exact absurd found (pieces_ne_nil _ _)
      | cons first others =>
        rw [lines, found] at ih
        by_cases member : '\n' ∈ before
        · obtain ⟨n, count⟩ := Nat.exists_eq_add_one.mpr (List.count_pos_iff.mpr member)
          rw [count] at ih ⊢
          rw [lastLine_cons_of_mem member]
          exact ih
        · have none : before.count '\n' = 0 := List.count_eq_zero.mpr member
          have single : '\n' ∉ c :: before := List.not_mem_cons_of_ne_of_not_mem (Ne.symm other) member
          rw [none, lastLine_of_not_mem member] at ih
          rw [none, lastLine_of_not_mem single]
          cases ih
          rfl

def byteLength (text : List Char) : Nat := (encodeUtf8 text).length

theorem byteLength_append (first second : List Char) :
    byteLength (first ++ second) = byteLength first + byteLength second := by
  rw [byteLength, encodeUtf8, List.flatMap_append, List.length_append]
  rfl

theorem byteLength_singleton (c : Char) : byteLength [c] = byteWidth c := by
  rw [byteLength, encodeUtf8, List.flatMap_singleton, length_encodeChar]

theorem byteWidth_pos (c : Char) : 1 ≤ byteWidth c := by grind [byteWidth]

theorem byteWidth_eq_one {c : Char} : byteWidth c = 1 ↔ c.toNat < 0x80 := by grind [byteWidth]

theorem length_le_byteLength (text : List Char) : text.length ≤ byteLength text := by
  induction text with
  | nil => exact Nat.le_refl 0
  | cons c text ih =>
    rw [← List.singleton_append, byteLength_append, byteLength_singleton, List.length_append]
    exact Nat.add_le_add (byteWidth_pos c) ih

theorem byteLength_eq_length {text : List Char} : byteLength text = text.length ↔ ∀ c ∈ text, c.toNat < 0x80 := by
  induction text with
  | nil => simp [byteLength, encodeUtf8]
  | cons c text ih =>
    have here := byteWidth_pos c
    have later := length_le_byteLength text
    rw [List.forall_mem_cons, ← ih, ← byteWidth_eq_one, ← List.singleton_append, byteLength_append,
      byteLength_singleton, List.length_append, List.length_singleton]
    omega

end EnvAudit.Text
