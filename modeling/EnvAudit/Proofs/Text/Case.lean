import EnvAudit.Text.Blank
import EnvAudit.Text.Case

/-! Laws of case. Lower and title case keep a text of ASCII characters on one line, and lower case keeps every ASCII
character that is no letter and every blank. -/
namespace EnvAudit.Text

def IsInline (c : Char) : Prop := c.toNat < 128 ∧ c ≠ '\n'

theorem isInline_ofNat {n : Nat} (bound : n < 128) (other : n ≠ 10) : IsInline (Char.ofNat n) := by
  have valid : n.isValidChar := .inl (by omega)
  have value : (Char.ofNat n).toNat = n := by
    rw [Char.ofNat, dif_pos valid]
    rfl
  refine ⟨by rw [value]; exact bound, ?_⟩
  intro same
  rw [same] at value
  exact other value.symm

theorem lowerWithin_ascii {c : Char} (ascii : c.toNat < 128) (before after : List Char) :
    lowerWithin before c after = [lowerChar c] := by
  have dotted : (c.toNat == 0x130) = false := beq_false_of_ne (by omega)
  have sigma : (c.toNat == 0x3a3) = false := beq_false_of_ne (by omega)
  rw [lowerWithin, dotted, sigma]
  rfl

theorem bounds_of_upper {c : Char} (upper : ('A' ≤ c && c ≤ 'Z') = true) : 65 ≤ c.toNat ∧ c.toNat ≤ 90 := by
  simpa [Char.le_def, UInt32.le_iff_toNat_le] using upper

theorem bounds_of_small {c : Char} (small : ('a' ≤ c && c ≤ 'z') = true) : 97 ≤ c.toNat ∧ c.toNat ≤ 122 := by
  simpa [Char.le_def, UInt32.le_iff_toNat_le] using small

theorem lowerChar_inline {c : Char} (inline : IsInline c) : IsInline (lowerChar c) := by
  rw [lowerChar, if_pos inline.1]
  split
  · next upper =>
    have bounds := bounds_of_upper upper
    exact isInline_ofNat (by omega) (by omega)
  · exact inline

theorem titleChar_inline {c : Char} (inline : IsInline c) : ∀ d ∈ titleChar c, IsInline d := by
  rw [titleChar, if_pos inline.1]
  intro d member
  rw [List.mem_singleton.mp member]
  split
  · next letter =>
    have bounds := bounds_of_small letter
    exact isInline_ofNat (by omega) (by omega)
  · exact inline

theorem lowerFrom_inline (before : List Char) {text : List Char} (inline : ∀ c ∈ text, IsInline c) :
    ∀ c ∈ lowerFrom before text, IsInline c := by
  induction text generalizing before with
  | nil => exact inline
  | cons c rest ih =>
    obtain ⟨here, inline⟩ := List.forall_mem_cons.mp inline
    rw [lowerFrom, lowerWithin_ascii here.1, List.singleton_append]
    exact List.forall_mem_cons.mpr ⟨lowerChar_inline here, ih (c :: before) inline⟩

theorem lower_inline {text : List Char} (inline : ∀ c ∈ text, IsInline c) : ∀ c ∈ lower text, IsInline c :=
  lowerFrom_inline [] inline

theorem titleFrom_inline (before : List Char) {text : List Char} (inline : ∀ c ∈ text, IsInline c) :
    ∀ c ∈ titleFrom before text, IsInline c := by
  induction text generalizing before with
  | nil => exact inline
  | cons c rest ih =>
    obtain ⟨here, inline⟩ := List.forall_mem_cons.mp inline
    rw [titleFrom]
    refine List.forall_mem_append.mpr ⟨?_, ih (c :: before) inline⟩
    split
    · rw [lowerWithin_ascii here.1]
      exact List.forall_mem_singleton.mpr (lowerChar_inline here)
    · exact titleChar_inline here

theorem title_inline {text : List Char} (inline : ∀ c ∈ text, IsInline c) : ∀ c ∈ title text, IsInline c :=
  titleFrom_inline [] inline

theorem lowerChar_of_letterless {c : Char} (ascii : c.toNat < 128) (letterless : isLatin c = false) :
    lowerChar c = c := by
  have small : ¬ ('A' ≤ c && c ≤ 'Z') = true := by
    intro upper
    simp [isLatin, upper] at letterless
  rw [lowerChar, if_pos ascii, if_neg small]

theorem mem_lower_of_kept {c : Char} (kept : ∀ before after, lowerWithin before c after = [c]) {text : List Char}
    (member : c ∈ text) : c ∈ lower text := by
  have inside (before : List Char) : c ∈ lowerFrom before text := by
    induction text generalizing before with
    | nil => cases member
    | cons d rest ih =>
      rw [lowerFrom, List.mem_append]
      rcases List.mem_cons.mp member with rfl | later
      · left
        rw [kept]
        exact List.mem_singleton_self c
      · exact .inr (ih later (d :: before))
  exact inside []

theorem lowerWithin_of_letterless {c : Char} (ascii : c.toNat < 128) (letterless : isLatin c = false)
    (before after : List Char) : lowerWithin before c after = [c] := by
  rw [lowerWithin_ascii ascii, lowerChar_of_letterless ascii letterless]

section Blanks
variable {c : Char}

def wideBlanks : List Nat :=
  [0x85, 0xa0, 0x1680, 0x2000, 0x2001, 0x2002, 0x2003, 0x2004, 0x2005, 0x2006, 0x2007, 0x2008, 0x2009, 0x200a, 0x2028,
    0x2029, 0x202f, 0x205f, 0x3000]

theorem mem_wideBlanks (blank : isBlank c = true) (wide : 128 ≤ c.toNat) : c.toNat ∈ wideBlanks := by
  simp only [isBlank, Bool.or_eq_true, Bool.and_eq_true, decide_eq_true_eq, beq_iff_eq] at blank
  simp only [wideBlanks, List.mem_cons, List.not_mem_nil, or_false]
  omega

theorem toNat_le_of_isBlank (blank : isBlank c = true) (ascii : c.toNat < 128) : c.toNat ≤ 32 := by
  simp only [isBlank, Bool.or_eq_true, Bool.and_eq_true, decide_eq_true_eq, beq_iff_eq] at blank
  omega

theorem lowerWithin_of_isBlank (blank : isBlank c = true) (before after : List Char) :
    lowerWithin before c after = [c] := by
  by_cases ascii : c.toNat < 128
  · have low := toNat_le_of_isBlank blank ascii
    refine lowerWithin_of_letterless ascii ?_ before after
    simp [isLatin, Char.le_def, UInt32.le_iff_toNat_le]
    omega
  · have caseless : ∀ n ∈ wideBlanks, n ≠ 0x130 ∧ n ≠ 0x3a3 ∧ lowerShifts.find? (·.covers n) = none := by decide
    obtain ⟨dotless, noSigma, fixed⟩ := caseless _ (mem_wideBlanks blank (by omega))
    rw [lowerWithin, if_neg (by simpa using dotless), if_neg (by simpa using noSigma), lowerChar, if_neg ascii, shiftBy,
      fixed]

theorem isBlank_of_isDigit (digit : isDigit c = true) : isBlank c = false := by
  refine Bool.eq_false_iff.mpr fun blank => ?_
  rw [isDigit] at digit
  split at digit
  · next ascii =>
    have low := toNat_le_of_isBlank blank ascii
    simp [Char.le_def, UInt32.le_iff_toNat_le] at digit
    omega
  · next wide =>
    have digitless : ∀ n ∈ wideBlanks, inRanges digitRuns n = false := by decide
    rw [digitless _ (mem_wideBlanks blank (by omega))] at digit
    cases digit

end Blanks

end EnvAudit.Text
