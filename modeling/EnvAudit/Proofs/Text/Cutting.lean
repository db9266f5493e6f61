import EnvAudit.Proofs.Text.Basic
import EnvAudit.Text.Blank
import EnvAudit.Text.Letter
import Mathlib.Data.List.DropRight

/-! Laws of cutting: a text that is put together from parts is taken apart into them again, be it at a separator, after
a known beginning or at the blanks around it. -/
namespace EnvAudit.Text

theorem dropStart?_append (beginning rest : List Char) : dropStart? beginning (beginning ++ rest) = some rest := by
  induction beginning with
  | nil => cases rest <;> rfl
  | cons b beginning ih => rw [List.cons_append, dropStart?, if_pos rfl, ih]

theorem eq_append_of_dropStart? {beginning text rest : List Char} (found : dropStart? beginning text = some rest) :
    text = beginning ++ rest := by
  induction beginning generalizing text with
  | nil =>
    cases found
    rfl
  | cons b beginning ih =>
    cases text with
    | nil => cases found
    | cons c text =>
      rw [dropStart?] at found
      split at found
      · next same => rw [ih found, same, List.cons_append]
      · cases found

theorem cut?_append {sep : Char} {before : List Char} (absent : sep ∉ before) (after : List Char) :
    cut? sep (before ++ sep :: after) = some (before, after) := by
  induction before with
  | nil => rw [List.nil_append, cut?, if_pos rfl]
  | cons c before ih =>
    obtain ⟨other, absent⟩ := List.ne_and_not_mem_of_not_mem_cons absent
    rw [List.cons_append, cut?, if_neg (Ne.symm other), ih absent]
    rfl

theorem eq_append_of_cut? {sep : Char} {text before after : List Char} (found : cut? sep text = some (before, after)) :
    text = before ++ sep :: after ∧ sep ∉ before := by
  induction text generalizing before with
  | nil => cases found
  | cons c rest ih =>
    rw [cut?] at found
    split at found
    · next same =>
      cases found
      exact ⟨by rw [same, List.nil_append], List.not_mem_nil⟩
    · next other =>
      obtain ⟨⟨first, last⟩, cut, same⟩ := Option.map_eq_some_iff.mp found
      cases same
      obtain ⟨split, absent⟩ := ih cut
      exact ⟨by rw [split, List.cons_append], List.not_mem_cons_of_ne_of_not_mem (Ne.symm other) absent⟩

theorem find?_eq_none_of_not_mem {c : Char} {needle text : List Char} (absent : c ∉ text) :
    find? (c :: needle) text = none := by
  induction text with
  | nil => rfl
  | cons d rest ih =>
    obtain ⟨other, absent⟩ := List.ne_and_not_mem_of_not_mem_cons absent
    rw [find?, List.isPrefixOf, beq_eq_false_iff_ne.mpr other, Bool.false_and, ih absent]
    rfl

theorem find?_of_infix {needle text : List Char} (inside : needle <:+: text) :
    ∃ distance, find? needle text = some distance := by
  induction text with
  | nil => exact ⟨0, by rw [List.infix_nil.mp inside]; rfl⟩
  | cons c rest ih =>
    rw [find?]
    split
    · exact ⟨0, rfl⟩
    · next other =>
      rcases List.infix_cons_iff.mp inside with first | later
      · exact absurd (List.isPrefixOf_iff_prefix.mpr first) other
      · obtain ⟨distance, found⟩ := ih later
        exact ⟨distance + 1, by rw [found]; rfl⟩

theorem eq_append_of_find? {needle text : List Char} {distance : Nat} (found : find? needle text = some distance) :
    ∃ before after, text = before ++ needle ++ after ∧ before.length = distance := by
  induction text generalizing distance with
  | nil =>
    rw [find?] at found
    split at found
    · next empty =>
      cases found
      exact ⟨[], [], by rw [List.isEmpty_iff.mp empty]; rfl, rfl⟩
    · cases found
  | cons c rest ih =>
    rw [find?] at found
    split at found
    · next begins =>
      cases found
      obtain ⟨after, same⟩ := List.isPrefixOf_iff_prefix.mp begins
      exact ⟨[], after, same.symm, rfl⟩
    · obtain ⟨shorter, later, same⟩ := Option.map_eq_some_iff.mp found
      cases same
      obtain ⟨before, after, rfl, length⟩ := ih later
      exact ⟨c :: before, after, rfl, congrArg (· + 1) length⟩

theorem pieces_of_not_mem {sep : Char} {text : List Char} (absent : sep ∉ text) : pieces sep text = [text] := by
  induction text with
  | nil => rfl
  | cons c rest ih =>
    obtain ⟨other, absent⟩ := List.ne_and_not_mem_of_not_mem_cons absent
    rw [pieces, if_neg (Ne.symm other), ih absent]

theorem sublist_of_mem_pieces {sep : Char} {text part : List Char} (member : part ∈ pieces sep text) :
    part.Sublist text := by
  induction text generalizing part with
  | nil => exact List.mem_singleton.mp member ▸ .refl []
  | cons c rest ih =>
    rw [pieces] at member
    split at member
    · rcases List.mem_cons.mp member with rfl | later
      · exact List.nil_sublist _
      · exact (ih later).cons c
    · cases found : pieces sep rest with
      | nil => exact absurd found (pieces_ne_nil sep rest)
      | cons first others =>
        rw [found] at member ih
        rcases List.mem_cons.mp member with rfl | later
        · exact (ih List.mem_cons_self).cons_cons c
        · exact (ih (List.mem_cons_of_mem _ later)).cons c

theorem subset_of_mem_pieces {sep : Char} {text part : List Char} (member : part ∈ pieces sep text) : part ⊆ text :=
  (sublist_of_mem_pieces member).subset

theorem length_lt_of_mem_pieces {sep : Char} {text part : List Char} (cut : sep ∈ text)
    (member : part ∈ pieces sep text) : part.length < text.length := by
  obtain ⟨before, after, rfl⟩ := List.append_of_mem cut
  rw [pieces_append, List.mem_append] at member
  rw [List.length_append, List.length_cons]
  rcases member with early | late
  · have fits := (sublist_of_mem_pieces early).length_le
    omega
  · have fits := (sublist_of_mem_pieces late).length_le
    omega

theorem pieces_append_left {sep : Char} {front : List Char} (absent : sep ∉ front) (text : List Char) :
    ∃ first others, pieces sep text = first :: others ∧ pieces sep (front ++ text) = (front ++ first) :: others := by
  induction front with
  | nil =>
    cases found : pieces sep text with
    | nil => exact absurd found (pieces_ne_nil sep text)
    | cons first others => exact ⟨first, others, rfl, found⟩
  | cons c front ih =>
    obtain ⟨other, absent⟩ := List.ne_and_not_mem_of_not_mem_cons absent
    obtain ⟨first, others, own, whole⟩ := ih absent
    exact ⟨first, others, own, by rw [List.cons_append, pieces, if_neg (Ne.symm other), whole]; rfl⟩

theorem pieces_join (sep : Char) {parts : List (List Char)} (inhabited : parts ≠ []) :
    pieces sep (join [sep] parts) = parts.flatMap (pieces sep) := by
  induction parts with
  | nil => exact absurd rfl inhabited
  | cons first rest ih =>
    cases rest with
    | nil => simp [join]
    | cons second others =>
      have later := ih (List.cons_ne_nil second others)
      rw [join, List.append_assoc, List.singleton_append, pieces_append, later, ← List.flatMap_cons]

theorem trimStart_append {blanks : List Char} (blank : ∀ c ∈ blanks, isBlank c = true) (text : List Char) :
    trimStart (blanks ++ text) = trimStart text := List.dropWhile_append_of_pos blank

theorem trimStart_cons {c : Char} (solid : isBlank c = false) (text : List Char) :
    trimStart (c :: text) = c :: text := by
  rw [trimStart, List.dropWhile_cons_of_neg (by simp [solid])]

theorem trimEnd_append {blanks : List Char} (blank : ∀ c ∈ blanks, isBlank c = true) (text : List Char) :
    trimEnd (text ++ blanks) = trimEnd text := by
  have reversed : ∀ c ∈ blanks.reverse, isBlank c = true := by simpa using blank
  rw [trimEnd, dropEndWhile, List.reverse_append, List.dropWhile_append_of_pos reversed]
  rfl

theorem trimEnd_append_cons {c : Char} (solid : isBlank c = false) (before after : List Char) :
    trimEnd (before ++ c :: after) = before ++ c :: trimEnd after := by
  simp only [trimEnd, dropEndWhile, List.reverse_append, List.reverse_cons, List.append_assoc, List.singleton_append]
  rw [List.dropWhile_append]
  split
  · next gone =>
    have empty : List.dropWhile isBlank after.reverse = [] := List.isEmpty_iff.mp gone
    rw [List.dropWhile_cons_of_neg (by simp [solid]), empty]
    simp
  · simp

theorem trim_append {blanks : List Char} (blank : ∀ c ∈ blanks, isBlank c = true) (text : List Char) :
    trim (blanks ++ text) = trim text := by
  rw [trim, trimStart_append blank, trim]

theorem trim_cons {c : Char} (solid : isBlank c = false) (text : List Char) : trim (c :: text) = c :: trimEnd text := by
  rw [trim, trimStart_cons solid]
  exact trimEnd_append_cons solid [] text

theorem trimEnd_trimEnd (text : List Char) : trimEnd (trimEnd text) = trimEnd text :=
  List.rdropWhile_idempotent isBlank text

theorem trim_trimEnd (text : List Char) : trim (trimEnd text) = trim text := by
  have blank : ∀ c ∈ text.takeWhile isBlank, isBlank c = true := fun c member => List.mem_takeWhile_imp member
  have split : text.takeWhile isBlank ++ text.dropWhile isBlank = text := List.takeWhile_append_dropWhile
  cases rest : text.dropWhile isBlank with
  | nil =>
    rw [rest, List.append_nil] at split
    rw [split] at blank
    have emptied : trimEnd text = [] := trimEnd_append blank []
    have gone := trim_append blank []
    rw [List.append_nil] at gone
    rw [emptied, gone]
  | cons c after =>
    have solid : isBlank c = false := by
      have head := List.head?_dropWhile_not isBlank text
      simpa [rest] using head
    rw [rest] at split
    rw [← split, trimEnd_append_cons solid, trim_append blank, trim_append blank, trim_cons solid, trim_cons solid,
      trimEnd_trimEnd]

theorem trim_append_right {blanks : List Char} (blank : ∀ c ∈ blanks, isBlank c = true) (text : List Char) :
    trim (text ++ blanks) = trim text := by
  rw [← trim_trimEnd, trimEnd_append blank, trim_trimEnd]

theorem trimEnd_of_solid {text : List Char} (solid : ∀ c ∈ text, isBlank c = false) : trimEnd text = text := by
  rcases List.eq_nil_or_concat text with rfl | ⟨front, last, rfl⟩
  · rfl
  · rw [List.concat_eq_append, trimEnd_append_cons (solid last (by simp))]
    rfl

theorem trim_of_solid {text : List Char} (solid : ∀ c ∈ text, isBlank c = false) : trim text = text := by
  cases text with
  | nil => rfl
  | cons c rest =>
    obtain ⟨first, others⟩ := List.forall_mem_cons.mp solid
    rw [trim_cons first, trimEnd_of_solid others]

theorem toNat_of_isPlainWordChar {c : Char} (word : isPlainWordChar c = true) :
    48 ≤ c.toNat ∧ c.toNat ≤ 122 ∧ c ≠ '=' := by
  simp only [isPlainWordChar, isLatin, isArabic, Bool.or_eq_true, Bool.and_eq_true, decide_eq_true_eq, beq_iff_eq,
    Char.le_def, UInt32.le_iff_toNat_le] at word
  have value : c.val.toNat = c.toNat := rfl
  have other : c ≠ '=' := by
    rintro rfl
    simp at word
  rcases word with ((word | word) | word) | rfl
  all_goals simp_all
  all_goals omega

theorem isBlank_of_isPlainWordChar {c : Char} (word : isPlainWordChar c = true) : isBlank c = false := by
  obtain ⟨least, greatest, _⟩ := toNat_of_isPlainWordChar word
  simp [isBlank]
  omega

end EnvAudit.Text
