import EnvAudit.Proofs.Text.Cutting

/-! Searching a text that goes on: what was found in its front stays the first occurrence, and what follows adds one
only where the sought text ends in it. The blanks around a text are apart from what trimming leaves. -/
namespace EnvAudit.Text

theorem find?_append_of_some {needle text : List Char} {distance : Nat} (found : find? needle text = some distance)
    (more : List Char) : find? needle (text ++ more) = some distance := by
  induction text generalizing distance with
  | nil =>
    rw [find?] at found
    split at found
    · next empty =>
      cases found
      rw [List.isEmpty_iff.mp empty]
      cases more <;> rfl
    · cases found
  | cons c rest ih =>
    rw [find?] at found
    rw [List.cons_append, find?]
    split at found
    · next begins =>
      cases found
      have longer : needle <+: c :: (rest ++ more) :=
        (List.isPrefixOf_iff_prefix.mp begins).trans (List.prefix_append (c :: rest) more)
      rw [if_pos (List.isPrefixOf_iff_prefix.mpr longer)]
    · next other =>
      obtain ⟨shorter, later, rfl⟩ := Option.map_eq_some_iff.mp found
      -- The needle stands in the rest, so it is too short to begin here and to end in what follows.
      have fits : needle.length ≤ (c :: rest).length := by
        obtain ⟨before, after, rfl, _⟩ := eq_append_of_find? later
        simp
        omega
      have differs : ¬ needle.isPrefixOf (c :: (rest ++ more)) = true := by
        intro begins
        apply other
        have longer : needle <+: (c :: rest) ++ more := List.isPrefixOf_iff_prefix.mp begins
        exact List.isPrefixOf_iff_prefix.mpr
          (List.prefix_of_prefix_length_le longer (List.prefix_append _ more) fits)
      rw [if_neg differs, ih later]
      rfl

theorem find?_eq_none_iff {needle text : List Char} : find? needle text = none ↔ ¬ needle <:+: text := by
  constructor
  · intro absent inside
    obtain ⟨distance, found⟩ := find?_of_infix inside
    rw [absent] at found
    cases found
  · intro apart
    cases found : find? needle text with
    | none => rfl
    | some distance =>
      obtain ⟨before, after, split, _⟩ := eq_append_of_find? found
      exact absurd ⟨before, after, split.symm⟩ apart

theorem infix_of_infix_append {front text more : List Char} {last : Char}
    (inside : front ++ [last] <:+: text ++ more) (absent : last ∉ more) : front ++ [last] <:+: text := by
  induction more using List.reverseRecOn with
  | nil => simpa using inside
  | append_singleton more c ih =>
    simp only [List.mem_append, List.mem_singleton, not_or] at absent
    rw [← List.append_assoc, List.infix_concat_iff] at inside
    rcases inside with ending | earlier
    · obtain ⟨before, same⟩ := ending
      rw [← List.append_assoc] at same
      have ends := List.append_inj_right' same rfl
      exact absurd (List.singleton_inj.mp ends) absent.2
    · exact ih earlier absent.1

theorem find?_of_first {front text : List Char} {last : Char} (absent : find? (front ++ [last]) text = none)
    (once : last ∉ front) (rest : List Char) :
    find? (front ++ [last]) (text ++ (front ++ [last] ++ rest)) = some text.length := by
  have inside : front ++ [last] <:+: text ++ (front ++ [last]) := (List.suffix_append text _).isInfix
  obtain ⟨distance, found⟩ := find?_of_infix inside
  obtain ⟨before, after, split, length⟩ := eq_append_of_find? found
  have ends : after = [] := by
    rcases List.eq_nil_or_concat after with rfl | ⟨after, c, rfl⟩
    · rfl
    · -- An occurrence that ends earlier would be one in the text itself.
      rw [List.concat_eq_append, ← List.append_assoc, ← List.append_assoc] at split
      have shorter := List.append_inj_left' split rfl
      have earlier : front ++ [last] <:+: text ++ front := ⟨before, after, shorter.symm⟩
      exact absurd (infix_of_infix_append earlier once) (find?_eq_none_iff.mp absent)
  rw [ends, List.append_nil] at split
  have same := List.append_inj_left' split rfl
  rw [← List.append_assoc, same, length]
  exact same ▸ find?_append_of_some found rest

theorem trim_parts (text : List Char) : ∃ lead trail, (∀ c ∈ lead, isBlank c = true) ∧
    (∀ c ∈ trail, isBlank c = true) ∧ text = lead ++ (trim text ++ trail) := by
  have leading : text.takeWhile isBlank ++ trimStart text = text := List.takeWhile_append_dropWhile
  have trailing : trimEnd (trimStart text) ++ (trimStart text).rtakeWhile isBlank = trimStart text :=
    List.rdropWhile_append_rtakeWhile
  refine ⟨text.takeWhile isBlank, (trimStart text).rtakeWhile isBlank, ?_, ?_, ?_⟩
  · intro c member
    exact List.mem_takeWhile_imp member
  · intro c member
    exact List.mem_rtakeWhile_imp member
  · rw [trim, trailing, leading]

theorem trim_trim (text : List Char) : trim (trim text) = trim text := by
  have idempotent : trimStart (trimStart text) = trimStart text := List.dropWhile_idempotent isBlank text
  calc trim (trim text)
    _ = trim (trimStart text) := trim_trimEnd (trimStart text)
    _ = trim text := by rw [trim, idempotent, trim]

theorem isBlank_head_trim {text rest : List Char} {c : Char} (begins : trim text = c :: rest) : isBlank c = false := by
  have shorter : trim text <+: trimStart text := List.rdropWhile_prefix isBlank (trimStart text)
  obtain ⟨after, split⟩ := shorter
  have head := List.head?_dropWhile_not isBlank text
  rw [trimStart, begins] at split
  rw [← split] at head
  simpa using head

theorem trimStart_eq_self_iff {text : List Char} :
    trimStart text = text ↔ ∀ c ∈ text.head?, isBlank c = false := by
  cases text with
  | nil => simp [trimStart]
  | cons c rest => simp [trimStart, List.dropWhile_eq_self_iff]

theorem trimEnd_eq_self_iff {text : List Char} :
    trimEnd text = text ↔ ∀ c ∈ text.getLast?, isBlank c = false := by
  refine List.rdropWhile_eq_self_iff.trans ⟨fun ends c last => ?_, fun ends inhabited => ?_⟩
  · obtain ⟨front, rfl⟩ := List.getLast?_eq_some_iff.mp last
    simpa using ends (by simp)
  · simpa using ends _ (List.getLast?_eq_some_getLast inhabited)

theorem trim_eq_self_iff {text : List Char} :
    trim text = text ↔ (∀ c ∈ text.head?, isBlank c = false) ∧ ∀ c ∈ text.getLast?, isBlank c = false := by
  rw [← trimStart_eq_self_iff, ← trimEnd_eq_self_iff]
  constructor
  · intro same
    have shorter : trim text <+: trimStart text := List.rdropWhile_prefix isBlank (trimStart text)
    have suffix : trimStart text <:+ text := List.dropWhile_suffix isBlank
    rw [same] at shorter
    have whole : trimStart text = text := suffix.eq_of_length (Nat.le_antisymm suffix.length_le shorter.length_le)
    exact ⟨whole, by rwa [trim, whole] at same⟩
  · rintro ⟨starts, ends⟩
    rw [trim, starts, ends]

end EnvAudit.Text
