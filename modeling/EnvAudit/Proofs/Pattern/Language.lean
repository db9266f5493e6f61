import EnvAudit.Proofs.Glob.Matching

/-! What an expression takes of a text when this does not depend on what stands around it: a part that belongs to some
language. The language of an expression is put together from those of its parts. -/
namespace EnvAudit.Pattern
open Glob

/-- Whether an expression takes exactly the texts of a language, whatever follows them. -/
def Expr.Reads (e : Expr) (language : List Char → Prop) : Prop :=
  ∀ (k : Spot → Option Spot) (goal : List Char → Prop), (∀ s, (k s).isSome = true ↔ goal s.after) → ∀ s,
    (e.step k s).isSome = true ↔ ∃ part rest, s.after = part ++ rest ∧ language part ∧ goal rest

section Reading
variable {e f : Expr} {language language' : List Char → Prop} {among : Char → Bool}

theorem reads_one (one : TakesOne e among) : e.Reads fun part => ∃ c, part = [c] ∧ among c = true := by
  rintro k goal follows ⟨before, after, position, groups⟩
  cases after with
  | nil => simp [one.isSome_nil]
  | cons c rest =>
    rw [one.isSome_cons, Bool.and_eq_true, follows]
    constructor
    · rintro ⟨taken, reached⟩
      exact ⟨[c], rest, rfl, ⟨c, rfl, taken⟩, reached⟩
    · rintro ⟨_, _, split, ⟨d, rfl, taken⟩, reached⟩
      cases split
      exact ⟨taken, reached⟩

theorem Expr.Reads.seq (first : e.Reads language) (second : f.Reads language') :
    (Expr.seq e f).Reads fun part => ∃ before after, part = before ++ after ∧ language before ∧ language' after := by
  intro k goal follows s
  have next := first (f.step k) (fun text => ∃ part rest, text = part ++ rest ∧ language' part ∧ goal rest)
    (second k goal follows) s
  rw [Expr.step, next]
  constructor
  · rintro ⟨before, _, split, own, after, rest, rfl, later, reached⟩
    exact ⟨before ++ after, rest, by rw [split, List.append_assoc], ⟨before, after, rfl, own, later⟩, reached⟩
  · rintro ⟨_, rest, split, ⟨before, after, rfl, own, later⟩, reached⟩
    exact ⟨before, after ++ rest, by rw [split, List.append_assoc], own, after, rest, rfl, later, reached⟩

theorem Expr.Reads.optional (once : e.Reads language) :
    (Expr.repeated .greedy 0 (some 1) e).Reads fun part => language part ∨ part = [] := by
  intro k goal follows s
  rw [step_optional_isSome_iff, once k goal follows, follows]
  constructor
  · rintro (⟨part, rest, split, own, reached⟩ | reached)
    · exact ⟨part, rest, split, .inl own, reached⟩
    · exact ⟨[], s.after, rfl, .inr rfl, reached⟩
  · rintro ⟨part, rest, split, own | rfl, reached⟩
    · exact .inl ⟨part, rest, split, own, reached⟩
    · exact .inr (split ▸ reached)

theorem Expr.Reads.group (inner : e.Reads language) (n : Nat) : (Expr.group n e).Reads language := by
  intro k goal follows s
  exact inner (fun t => k { t with groups := (n, (t.before.take (t.position - s.position)).reverse) :: t.groups }) goal
    (fun t => follows _) s

theorem reads_many (one : TakesOne e among) :
    (Expr.repeated .greedy 1 none e).Reads fun part => part ≠ [] ∧ ∀ c ∈ part, among c = true := by
  rintro k goal follows ⟨before, after, position, groups⟩
  have whole : Follows k fun text => (k ⟨before, text, position, groups⟩).isSome := by
    intro s
    rw [Bool.eq_iff_iff, follows, follows]
  have ample : stepBound 1 ⟨before, after, position, groups⟩ = after.length + 2 + 1 := by
    simp only [stepBound]
    omega
  rw [Expr.step]
  dsimp only
  rw [ample, repeatGreedy]
  cases after with
  | nil => simp [one.isSome_nil]
  | cons c rest =>
    have enough : rest.length < (c :: rest).length + 2 := by
      rw [List.length_cons]
      omega
    -- Only the first character is demanded; the repetition may stop before each of the others.
    have more : (repeatGreedy e.step k ((c :: rest).length + 2) 0 none none
        ⟨c :: before, rest, position + 1, groups⟩).isSome =
          takeSome among (fun text => (k ⟨before, text, position, groups⟩).isSome) rest :=
      repeatGreedy_isSome one whole enough (by simp)
    rw [one.isSome_cons, Option.map_none, more, Bool.and_eq_true, takeSome_iff]
    simp only [follows]
    constructor
    · rintro ⟨taken, part, rest, rfl, others, reached⟩
      exact ⟨c :: part, rest, rfl, ⟨List.cons_ne_nil c part, List.forall_mem_cons.mpr ⟨taken, others⟩⟩, reached⟩
    · rintro ⟨_ | ⟨d, part⟩, rest, split, ⟨filled, taken⟩, reached⟩
      · exact absurd rfl filled
      · cases split
        obtain ⟨first, others⟩ := List.forall_mem_cons.mp taken
        exact ⟨first, part, rest, rfl, others, reached⟩

theorem Expr.Reads.of_iff (reads : e.Reads language) (same : ∀ part, language part ↔ language' part) :
    e.Reads language' := by
  intro k goal follows s
  simp only [← same]
  exact reads k goal follows s

end Reading

def Expr.matchesWhole (e : Expr) (text : List Char) : Bool :=
  (e.step (fun s => if s.after.isEmpty then some s else none) ⟨[], text, 0, []⟩).isSome

end EnvAudit.Pattern
