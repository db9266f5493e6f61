import EnvAudit.Text.Basic
import Mathlib.Data.List.Induction
import Mathlib.Data.List.Nodup

/-! Laws of plain text and of lists that are kept free of repetition: cutting and joining undo each other piece by
piece, keeping first occurrences loses no element, and sorting what has no repetition gives a strictly increasing
list. -/
namespace EnvAudit.Text

theorem pieces_append (sep : Char) (before after : List Char) :
    pieces sep (before ++ sep :: after) = pieces sep before ++ pieces sep after := by
  induction before with
  | nil => simp [pieces]
  | cons c rest ih =>
    rw [List.cons_append, pieces, pieces]
    split
    · rw [ih, List.cons_append]
    · rw [ih]
      cases found : pieces sep rest with
      | nil => exact absurd found (pieces_ne_nil sep rest)
      | cons first others => rfl

theorem join_append (sep : List Char) {first second : List (List Char)} (inhabited : first ≠ [])
    (continued : second ≠ []) : join sep (first ++ second) = join sep first ++ sep ++ join sep second := by
  induction first with
  | nil => exact absurd rfl inhabited
  | cons head rest ih =>
    cases rest with
    | nil =>
      cases second with
      | nil => exact absurd rfl continued
      | cons next others => simp [join]
    | cons next others =>
      have tail := ih (List.cons_ne_nil next others)
      rw [List.cons_append] at tail
      simp only [List.cons_append, join, tail, List.append_assoc]

section Distinct
variable {α : Type} [BEq α]

theorem distinct_concat (items : List α) (last : α) :
    distinct (items ++ [last]) =
      if (distinct items).contains last then distinct items else distinct items ++ [last] := by
  rw [distinct, List.foldl_append]
  rfl

variable [LawfulBEq α]

theorem mem_distinct {items : List α} {item : α} : item ∈ distinct items ↔ item ∈ items := by
  induction items using List.reverseRecOn with
  | nil => simp [distinct]
  | append_singleton items last ih =>
    rw [distinct_concat]
    split
    · next known =>
      have known : last ∈ distinct items := by simpa using known
      by_cases same : item = last
      · simp [same, known]
      · simp [ih, same]
    · simp [ih]

theorem distinct_concat_known {items : List α} {last : α} (known : last ∈ items) :
    distinct (items ++ [last]) = distinct items := by
  rw [distinct_concat, if_pos (by simpa using mem_distinct.mpr known)]

theorem distinct_concat_new {items : List α} {last : α} (new : last ∉ items) :
    distinct (items ++ [last]) = distinct items ++ [last] := by
  rw [distinct_concat, if_neg (by simpa [mem_distinct] using new)]

theorem nodup_distinct (items : List α) : (distinct items).Nodup := by
  induction items using List.reverseRecOn with
  | nil => simp [distinct]
  | append_singleton items last ih =>
    by_cases known : last ∈ items
    · rw [distinct_concat_known known]
      exact ih
    · rw [distinct_concat_new known, List.nodup_append]
      refine ⟨ih, List.nodup_singleton last, ?_⟩
      intro item member other single equal
      rw [List.mem_singleton.mp single] at equal
      exact known (equal ▸ mem_distinct.mp member)

theorem distinct_of_nodup {items : List α} (unique : items.Nodup) : distinct items = items := by
  induction items using List.reverseRecOn with
  | nil => rfl
  | append_singleton items last ih =>
    rw [List.nodup_append] at unique
    have new : last ∉ items := fun member => unique.2.2 last member last (List.mem_singleton_self last) rfl
    rw [distinct_concat_new new, ih unique.1]

theorem distinct_filter (keep : α → Bool) (items : List α) :
    distinct (items.filter keep) = (distinct items).filter keep := by
  induction items using List.reverseRecOn with
  | nil => simp [distinct]
  | append_singleton items last ih =>
    rw [List.filter_append]
    by_cases kept : keep last = true
    · have single : [last].filter keep = [last] := List.filter_cons_of_pos kept
      rw [single]
      by_cases known : last ∈ items
      · rw [distinct_concat_known known, distinct_concat_known (List.mem_filter.mpr ⟨known, kept⟩), ih]
      · have new : last ∉ items.filter keep := fun member => known (List.mem_filter.mp member).1
        rw [distinct_concat_new known, distinct_concat_new new, ih, List.filter_append, single]
    · have dropped : [last].filter keep = [] := List.filter_cons_of_neg kept
      rw [dropped, List.append_nil, ih, distinct_concat]
      split
      · rfl
      · rw [List.filter_append, dropped, List.append_nil]

theorem distinct_append (first second : List α) :
    distinct (first ++ second) = distinct first ++ (distinct second).filter (!first.contains ·) := by
  induction second using List.reverseRecOn with
  | nil => simp [distinct]
  | append_singleton second last ih =>
    rw [← List.append_assoc]
    by_cases late : last ∈ second
    · rw [distinct_concat_known late, distinct_concat_known (List.mem_append_right first late), ih]
    · rw [distinct_concat_new late, List.filter_append, ← List.append_assoc, ← ih]
      by_cases early : last ∈ first
      · rw [distinct_concat_known (List.mem_append_left second early)]
        simp [early]
      · rw [distinct_concat_new (List.not_mem_append early late)]
        simp [early]

theorem distinct_cons (head : α) (rest : List α) :
    distinct (head :: rest) = head :: (distinct rest).filter (· != head) := by
  have single : distinct [head] = [head] := by simp [distinct]
  have split := distinct_append [head] rest
  rw [List.singleton_append, single] at split
  rw [split, List.singleton_append]
  congr 1
  apply List.filter_congr
  intro item _
  simp [bne, Bool.beq_comm]

theorem length_distinct_reverse (items : List α) : (distinct items.reverse).length = (distinct items).length := by
  apply List.Perm.length_eq
  rw [List.perm_ext_iff_of_nodup (nodup_distinct _) (nodup_distinct _)]
  intro item
  simp [mem_distinct]

theorem mem_take_distinct_iff {bound : Nat} {items : List α} {item : α} :
    item ∈ (distinct items).take bound ↔
      ∃ before after, items = before ++ item :: after ∧ item ∉ before ∧ (distinct before).length < bound := by
  have place (before after : List α) (absent : item ∉ before) : item ∈ (distinct (before ++ item :: after)).take bound ↔
      (distinct before).length < bound := by
    have new : item ∉ distinct before := fun member => absent (mem_distinct.mp member)
    rw [distinct_append, distinct_cons, List.filter_cons_of_pos (by simpa using absent), List.take_append,
      List.mem_append]
    constructor
    · intro member
      rcases member with early | late
      · exact absurd (List.mem_of_mem_take early) new
      · by_contra full
        simp [Nat.sub_eq_zero_of_le (Nat.le_of_not_lt full)] at late
    · intro room
      right
      obtain ⟨left, spare⟩ := Nat.exists_eq_add_of_lt room
      rw [spare, show (distinct before).length + left + 1 - (distinct before).length = left + 1 by omega]
      simp
  constructor
  · intro member
    have present := mem_distinct.mp (List.mem_of_mem_take member)
    obtain ⟨before, after, rfl, absent⟩ := List.eq_append_cons_of_mem present
    exact ⟨before, after, rfl, absent, (place before after absent).mp member⟩
  · rintro ⟨before, after, rfl, absent, room⟩
    exact (place before after absent).mpr room

end Distinct
end EnvAudit.Text

namespace EnvAudit

theorem mem_sortStrings {items : List String} {item : String} : item ∈ sortStrings items ↔ item ∈ items := by
  rw [sortStrings, List.mem_mergeSort]

theorem sortStrings_of_increasing {items : List String} (increasing : items.Pairwise (· < ·)) :
    sortStrings items = items := by
  apply List.mergeSort_of_pairwise
  exact increasing.imp fun below => decide_eq_true (Std.le_of_lt below)

theorem sortStrings_increasing {items : List String} (unique : items.Nodup) :
    (sortStrings items).Pairwise (· < ·) := by
  have ordered : (sortStrings items).Pairwise fun a b => decide (a ≤ b) = true := by
    apply List.pairwise_mergeSort
    · intro a b c first second
      simp only [decide_eq_true_eq] at first second ⊢
      exact String.le_trans first second
    · intro a b
      simpa using String.le_total a b
  have single : (sortStrings items).Pairwise (· ≠ ·) :=
    (List.mergeSort_perm items _).nodup_iff.mpr unique
  apply ordered.imp₂ _ single
  intro a b below differs
  apply Classical.byContradiction
  intro above
  exact differs (String.le_antisymm (of_decide_eq_true below) (String.not_lt.mp above))

end EnvAudit
