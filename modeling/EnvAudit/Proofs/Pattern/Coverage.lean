import EnvAudit.Pattern
import EnvAudit.Proofs.Text.Case
import Mathlib.Data.List.Basic

/-! When one pattern finds all that another one finds. This is seen where the characters and places that the one demands
in a row include a row that satisfies the other one. -/
namespace EnvAudit.Pattern

inductive Spot.Later : Spot → Spot → Prop
  | here (s : Spot) : Later s s
  | next {s t u : Spot} {c : Char} (advanced : s.advance? = some (c, t)) (later : Later t u) : Later s u

theorem Spot.Later.trans {s t u : Spot} (first : Later s t) (second : Later t u) : Later s u := by
  induction first with
  | here => exact second
  | next advanced _ ih => exact .next advanced (ih second)

def Spot.IsPlain (plain : Bool) (s : Spot) : Prop := plain = true → ∀ c ∈ s.after, c.toNat < 128

theorem Spot.IsPlain.advance {plain : Bool} {s t : Spot} {c : Char} (ascii : s.IsPlain plain)
    (advanced : s.advance? = some (c, t)) : t.IsPlain plain ∧ (plain = true → c.toNat < 128) := by
  obtain ⟨before, after, position, groups⟩ := s
  cases after with
  | nil => cases advanced
  | cons d rest =>
    cases advanced
    refine ⟨fun asked other member => ascii asked other (List.mem_cons_of_mem _ member), ?_⟩
    exact fun asked => ascii asked _ List.mem_cons_self

theorem Spot.Later.isPlain {plain : Bool} {s t : Spot} (later : Later s t) (ascii : s.IsPlain plain) :
    t.IsPlain plain := by
  induction later with
  | here => exact ascii
  | next advanced _ ih => exact ih (ascii.advance advanced).1

theorem Expr.searchFrom_isSome_iff {e : Expr} {before after : List Char} {position : Nat} :
    (e.searchFrom before after position).isSome = true ↔
      ∃ s, Spot.Later ⟨before, after, position, []⟩ s ∧ (e.step some s).isSome = true := by
  induction after generalizing before position with
  | nil =>
    rw [searchFrom, matchAt?, Option.isSome_map]
    constructor
    · exact fun found => ⟨_, .here _, found⟩
    · rintro ⟨s, later, found⟩
      cases later with
      | here => exact found
      | next advanced _ => cases advanced
  | cons c rest ih =>
    have split : (e.searchFrom before (c :: rest) position).isSome = true ↔
        (e.step some ⟨before, c :: rest, position, []⟩).isSome = true ∨
          (e.searchFrom (c :: before) rest (position + 1)).isSome = true := by
      rw [searchFrom, matchAt?]
      cases e.step some ⟨before, c :: rest, position, []⟩ <;> simp
    rw [split, ih]
    constructor
    · rintro (found | ⟨s, later, found⟩)
      · exact ⟨_, .here _, found⟩
      · exact ⟨s, .next rfl later, found⟩
    · rintro ⟨s, later, found⟩
      cases later with
      | here => exact .inl found
      | next advanced later =>
        cases advanced
        exact .inr ⟨s, later, found⟩

def run : List Expr → Step
  | [], k => k
  | e :: rest, k => e.step (run rest k)

theorem run_append (first second : List Expr) (k : Spot → Option Spot) :
    run (first ++ second) k = run first (run second k) := by
  induction first with
  | nil => rfl
  | cons e rest ih => rw [List.cons_append, run, run, ih]

def Expr.parts : Expr → List Expr
  | .seq first second => first.parts ++ second.parts
  | e => [e]

theorem Expr.run_parts (e : Expr) (k : Spot → Option Spot) : run e.parts k = e.step k := by
  induction e generalizing k with
  | seq first second ih ih' => rw [parts, run_append, ih', ih, step]
  | _ => rfl

def Expr.isLeaf : Expr → Bool
  | .set .. => true
  | .place _ => true
  | _ => false

def Expr.stretches : Expr → List (List Expr)
  | .set negated items options => [[.set negated items options]]
  | .place here => [[.place here]]
  | .seq first second => first.stretches.flatMap fun front => second.stretches.map (front ++ ·)
  | .alt first second => first.stretches ++ second.stretches
  | .group _ body => body.stretches
  | .repeated .greedy 0 (some 1) body => [] :: body.stretches
  | _ => []

def nearCodes (code : Nat) : List Nat := [code, code + 32, code - 32]

@[simp] theorem mem_nearCodes {n code : Nat} : n ∈ nearCodes code ↔ n = code ∨ n = code + 32 ∨ n = code - 32 := by
  simp [nearCodes]

/-- Whether every character of a literal belongs to a set. Literals that disregard case are judged within ASCII. Two
literals with the same options are compared only if their characters are near each other. -/
def isBelow (plain : Bool) : Expr → Expr → Bool
  | .set false [.char code] options, .set negated items options' =>
    (items.length != 1 || options != options' || (nearCodes code).any fun n => items.contains (.char n)) &&
    (!options.ignoreCase || plain && decide (code < 128)) && (nearCodes code).all fun n =>
      !setContains false [.char code] options (Char.ofNat n) || setContains negated items options' (Char.ofNat n)
  | _, _ => false

/-- Whether a row of leaves matches wherever a row of expressions does, which may demand more in the end. -/
def leads (plain : Bool) : List Expr → List Expr → Bool
  | _, [] => true
  | [], _ :: _ => false
  | e :: rest, f :: others => (e.isLeaf && e == f || isBelow plain e f) && leads plain rest others

def meets (plain : Bool) : List Expr → List Expr → Bool
  | [], row => leads plain [] row
  | e :: rest, row => leads plain (e :: rest) row || e.isLeaf && meets plain rest row

/-- Whether an expression is seen to match only where another one is found, in texts of ASCII if this is asked for. -/
def Expr.isCoveredBy (plain : Bool) (e f : Expr) : Bool :=
  e == f || f.stretches.any (meets plain e.parts)

section Leaves
variable {plain : Bool} {e f : Expr} {k k' : Spot → Option Spot} {s : Spot}

theorem step_set_isSome_iff {negated : Bool} {items : List SetItem} {options : Options} :
    ((Expr.set negated items options).step k s).isSome = true ↔
      ∃ c t, s.advance? = some (c, t) ∧ setContains negated items options c = true ∧ (k t).isSome = true := by
  simp only [Expr.step]
  cases s.advance? with
  | none => simp
  | some place =>
    obtain ⟨c, t⟩ := place
    by_cases contains : setContains negated items options c = true
    · simp [contains]
    · simp [contains]

theorem step_place_isSome_iff {here : Place} :
    ((Expr.place here).step k s).isSome = true ↔ here.holds s = true ∧ (k s).isSome = true := by
  simp only [Expr.step]
  by_cases holds : here.holds s = true
  · simp [holds]
  · simp [holds]

theorem step_optional_isSome_iff : ((Expr.repeated .greedy 0 (some 1) e).step k s).isSome = true ↔
    (e.step k s).isSome = true ∨ (k s).isSome = true := by
  have enough : stepBound 0 s = s.after.length + 1 + 1 := by simp [stepBound]
  have once : repeatGreedy e.step k (s.after.length + 1) 0 (some 0) (some s.position) = k := by
    funext t
    rw [repeatGreedy]
    rfl
  simp only [Expr.step, enough]
  rw [repeatGreedy]
  have first : ((some 1 : Option Nat) == some 0 || none == some s.position) = false := rfl
  simp only [first, Bool.false_eq_true, if_false, Option.map_some, Nat.sub_self, once]
  cases e.step k s <;> simp

theorem Expr.continues_of_isLeaf (leaf : e.isLeaf = true) (ascii : s.IsPlain plain)
    (found : (e.step k s).isSome = true) :
    ∃ t, Spot.Later s t ∧ t.IsPlain plain ∧ (k t).isSome = true := by
  cases e with
  | set negated items options =>
    obtain ⟨c, t, advanced, _, goes⟩ := step_set_isSome_iff.mp found
    exact ⟨t, .next advanced (.here t), (ascii.advance advanced).1, goes⟩
  | place here => exact ⟨s, .here s, ascii, (step_place_isSome_iff.mp found).2⟩
  | _ => cases leaf

theorem Expr.step_mono_of_isLeaf (leaf : e.isLeaf = true) (ascii : s.IsPlain plain)
    (more : ∀ t, t.IsPlain plain → (k t).isSome = true → (k' t).isSome = true)
    (found : (e.step k s).isSome = true) : (e.step k' s).isSome = true := by
  cases e with
  | set negated items options =>
    obtain ⟨c, t, advanced, contains, goes⟩ := step_set_isSome_iff.mp found
    exact step_set_isSome_iff.mpr ⟨c, t, advanced, contains, more t (ascii.advance advanced).1 goes⟩
  | place here =>
    obtain ⟨holds, goes⟩ := step_place_isSome_iff.mp found
    exact step_place_isSome_iff.mpr ⟨holds, more s ascii goes⟩
  | _ => cases leaf

theorem near_of_mem_variants {asciiOnly : Bool} {c v : Char} (ascii : c.toNat < 128) (ascii' : v.toNat < 128)
    (member : v ∈ Text.variants asciiOnly c) : c.toNat ∈ nearCodes v.toNat := by
  have shifted (n : Nat) (bound : n < 128) : (Char.ofNat n).toNat = n := by
    have valid : n.isValidChar := .inl (by omega)
    rw [Char.ofNat, dif_pos valid]
    rfl
  have special : (['i', 'I', 'k', 'K', 's', 'S'].all fun c => (Text.variants false c).all fun v =>
      !decide (v.toNat < 128) || (nearCodes v.toNat).contains c.toNat) = true := by
    decide +kernel
  by_cases plainly : (asciiOnly || (c.toNat < 128 && c != 'i' && c != 'I' && c != 'k' && c != 'K' && c != 's'
      && c != 'S')) = true
  · rw [Text.variants, if_pos plainly] at member
    split at member
    · next small =>
      have bounds := Text.bounds_of_small small
      rcases List.mem_pair.mp member with rfl | rfl
      · simp
      · rw [shifted _ (by omega)]
        simp
        omega
    · split at member
      · next upper =>
        have bounds := Text.bounds_of_upper upper
        rcases List.mem_pair.mp member with rfl | rfl
        · simp
        · rw [shifted _ (by omega)]
          simp
      · rw [List.mem_singleton.mp member]
        simp
  · have wide : asciiOnly = false := by
      cases asciiOnly with
      | true => simp at plainly
      | false => rfl
    rw [wide] at member plainly
    have listed : c ∈ ['i', 'I', 'k', 'K', 's', 'S'] := by
      by_contra other
      simp only [List.mem_cons, List.not_mem_nil, or_false, not_or] at other
      simp [ascii, other] at plainly
    have near := List.all_eq_true.mp (List.all_eq_true.mp special c listed) v member
    rw [decide_eq_true ascii', Bool.not_true, Bool.false_or, List.contains_iff_mem] at near
    exact near

theorem near_of_setContains {code : Nat} {options : Options} {c : Char}
    (judged : options.ignoreCase = true → c.toNat < 128 ∧ code < 128)
    (contains : setContains false [.char code] options c = true) : c.toNat ∈ nearCodes code := by
  simp only [setContains, List.any_cons, List.any_nil, Bool.or_false, Bool.bne_false, SetItem.contains,
    List.any_eq_true, beq_iff_eq] at contains
  obtain ⟨v, member, rfl⟩ := contains
  split at member
  · next caseless => exact near_of_mem_variants (judged caseless).1 (judged caseless).2 member
  · rw [List.mem_singleton.mp member]
    exact List.mem_cons_self

theorem step_mono_of_isBelow (below : isBelow plain e f = true) (ascii : s.IsPlain plain)
    (more : ∀ t, t.IsPlain plain → (k t).isSome = true → (k' t).isSome = true)
    (found : (e.step k s).isSome = true) : (f.step k' s).isSome = true := by
  unfold isBelow at below
  split at below
  · next code options negated items options' =>
    rw [Bool.and_eq_true, Bool.and_eq_true, List.all_eq_true] at below
    obtain ⟨c, t, advanced, contains, goes⟩ := step_set_isSome_iff.mp found
    obtain ⟨ascii', own⟩ := ascii.advance advanced
    have near : c.toNat ∈ nearCodes code := by
      apply near_of_setContains _ contains
      intro caseless
      have bounded := below.1.2
      rw [caseless, Bool.not_true, Bool.false_or, Bool.and_eq_true, decide_eq_true_eq] at bounded
      exact ⟨own bounded.1, bounded.2⟩
    have inside := below.2 c.toNat near
    rw [Char.ofNat_toNat, contains, Bool.not_true, Bool.false_or] at inside
    exact step_set_isSome_iff.mpr ⟨c, t, advanced, inside, more t ascii' goes⟩
  · cases below

end Leaves

section Rows
variable {plain : Bool} {k : Spot → Option Spot} {s : Spot}

theorem run_of_leads {parts row : List Expr} (leading : leads plain parts row = true) (ascii : s.IsPlain plain)
    (found : (run parts k s).isSome = true) : (run row some s).isSome = true := by
  induction row generalizing parts s with
  | nil => rfl
  | cons f others ih =>
    cases parts with
    | nil => cases leading
    | cons e rest =>
      rw [leads, Bool.and_eq_true, Bool.or_eq_true] at leading
      have more (t : Spot) (ascii : t.IsPlain plain) (goes : (run rest k t).isSome = true) :
          (run others some t).isSome = true := ih leading.2 ascii goes
      rcases leading.1 with same | below
      · rw [Bool.and_eq_true, beq_iff_eq] at same
        obtain ⟨leaf, rfl⟩ := same
        exact Expr.step_mono_of_isLeaf leaf ascii more found
      · exact step_mono_of_isBelow below ascii more found

theorem run_of_meets {parts row : List Expr} (met : meets plain parts row = true) (ascii : s.IsPlain plain)
    (found : (run parts k s).isSome = true) :
    ∃ t, Spot.Later s t ∧ (run row some t).isSome = true := by
  induction parts generalizing s with
  | nil => exact ⟨s, .here s, run_of_leads met ascii found⟩
  | cons e rest ih =>
    rw [meets, Bool.or_eq_true, Bool.and_eq_true] at met
    rcases met with leading | ⟨leaf, later⟩
    · exact ⟨s, .here s, run_of_leads leading ascii found⟩
    · obtain ⟨t, reached, ascii', goes⟩ := Expr.continues_of_isLeaf leaf ascii found
      obtain ⟨u, further, matched⟩ := ih later ascii' goes
      exact ⟨u, reached.trans further, matched⟩

/-- What one of its rows of leaves matches, the expression matches. The groups that it remembers on the way do not
matter to what follows. -/
theorem Expr.step_of_stretch {e : Expr} {row : List Expr} (member : row ∈ e.stretches)
    {k k' : Spot → Option Spot}
    (blind : ∀ s groups, (k s).isSome = true → (k' { s with groups := groups }).isSome = true) (s : Spot)
    (groups : List (Nat × List Char)) (found : (run row k s).isSome = true) :
    (e.step k' { s with groups := groups }).isSome = true := by
  induction e generalizing row k k' s groups with
  | set negated items options =>
    rw [List.mem_singleton.mp member] at found
    obtain ⟨c, t, advanced, contains, goes⟩ := step_set_isSome_iff.mp found
    obtain ⟨before, after, position, own⟩ := s
    cases after with
    | nil => cases advanced
    | cons d rest =>
      cases advanced
      exact step_set_isSome_iff.mpr ⟨_, _, rfl, contains, blind _ groups goes⟩
  | place here =>
    rw [List.mem_singleton.mp member] at found
    obtain ⟨holds, goes⟩ := step_place_isSome_iff.mp found
    have same : here.holds { s with groups := groups } = here.holds s := by cases here <;> rfl
    exact step_place_isSome_iff.mpr ⟨same.trans holds, blind s groups goes⟩
  | seq first second ih ih' =>
    obtain ⟨front, listed, member⟩ := List.mem_flatMap.mp member
    obtain ⟨back, listed', rfl⟩ := List.mem_map.mp member
    rw [run_append] at found
    exact ih listed (fun t groups goes => ih' listed' blind t groups goes) s groups found
  | alt first second ih ih' =>
    simp only [step]
    cases taken : first.step k' { s with groups := groups } with
    | some place => rfl
    | none =>
      rcases List.mem_append.mp member with listed | listed
      · have goes := ih listed blind s groups found
        rw [taken] at goes
        cases goes
      · exact ih' listed blind s groups found
  | group index body ih =>
    simp only [step]
    apply ih member _ s groups found
    intro t groups goes
    exact blind t _ goes
  | repeated eagerness least most body ih =>
    unfold stretches at member
    split at member
    all_goals try contradiction
    next inner same =>
      cases same
      rw [step_optional_isSome_iff]
      rcases List.mem_cons.mp member with rfl | listed
      · exact .inr (blind s groups found)
      · exact .inl (ih listed blind s groups found)
  | _ => cases member

end Rows

theorem Expr.search_of_isCoveredBy {plain : Bool} {e f : Expr} (covered : e.isCoveredBy plain f = true)
    {text : List Char} (ascii : plain = true → ∀ c ∈ text, c.toNat < 128) (found : (e.search text).isSome = true) :
    (f.search text).isSome = true := by
  rw [isCoveredBy, Bool.or_eq_true, beq_iff_eq, List.any_eq_true] at covered
  rcases covered with rfl | ⟨row, listed, met⟩
  · exact found
  · obtain ⟨s, later, matched⟩ := searchFrom_isSome_iff.mp found
    rw [← run_parts] at matched
    obtain ⟨t, reached, begins⟩ := run_of_meets met (later.isPlain ascii) matched
    have goes : (f.step some t).isSome = true :=
      step_of_stretch listed (fun _ _ goes => goes) t t.groups begins
    exact searchFrom_isSome_iff.mpr ⟨t, later.trans reached, goes⟩

end EnvAudit.Pattern
