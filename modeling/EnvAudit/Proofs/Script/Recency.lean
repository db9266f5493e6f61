import EnvAudit.Script.Cache
import EnvAudit.Proofs.Text.Basic
import EnvAudit.Usage.Scan

/-! Whole runs of the cache of syntax trees. After any run it holds the pairs of dialect and source that were parsed
last since it was cleared, the latest first and as many as fit, and a parse gives a tree again exactly when too few
other pairs came in between to push it out. What the parser makes of a source plays no part in this, and a scan gives
the same whether or not its tree comes from the cache. -/
namespace EnvAudit
namespace Script

def CachedTree.key (cached : CachedTree) : Dialect × List Char := (cached.dialect, cached.source)

theorem CachedTree.isFor_eq (dialect : Dialect) (source : List Char) (cached : CachedTree) :
    cached.isFor dialect source = (cached.key == (dialect, source)) := rfl

namespace Cache

inductive Step
  | clear
  | parse (dialect : Dialect) (source : List Char)
deriving Repr, DecidableEq

variable (parser : Dialect → List Char → Option Node)

def apply (cache : Cache) : Step → Cache
  | .clear => cache.clear
  | .parse dialect source => (cache.parse parser dialect source).2

def after (capacity : Nat) (steps : List Step) : Cache := steps.foldl (apply parser) { capacity := capacity }

/-- The tree that a parse gives after a run. -/
def given (capacity : Nat) (steps : List Step) (dialect : Dialect) (source : List Char) : CachedTree :=
  ((after parser capacity steps).parse parser dialect source).1

def keys (cache : Cache) : List (Dialect × List Char) := cache.trees.map CachedTree.key

def record (parsed : List (Dialect × List Char)) : Step → List (Dialect × List Char)
  | .clear => []
  | .parse dialect source => parsed ++ [(dialect, source)]

/-- The pairs that were parsed since the last clear, in order and as often as they were. -/
def sinceClear (steps : List Step) : List (Dialect × List Char) := steps.foldl record []

/-- The different pairs that were parsed since the last clear, the latest first. -/
def recency (steps : List Step) : List (Dialect × List Char) := Text.distinct (sinceClear steps).reverse

/-- Whether an earlier parse of a run gave the very tree that a parse gives now. -/
def IsRepeated (capacity : Nat) (steps : List Step) (dialect : Dialect) (source : List Char) : Prop :=
  ∃ earlier first text later, steps = earlier ++ .parse first text :: later ∧
    given parser capacity earlier first text = given parser capacity steps dialect source

/-- Whether a pair was parsed with no clear since, and fewer other pairs than a number after its last parse. -/
def IsRecent (bound : Nat) (steps : List Step) (dialect : Dialect) (source : List Char) : Prop :=
  ∃ earlier later, steps = earlier ++ .parse dialect source :: later ∧ .clear ∉ later ∧
    .parse dialect source ∉ later ∧ (Text.distinct (sinceClear later)).length < bound

section Parse
variable (cache : Cache) (dialect : Dialect) (source : List Char)

theorem parse_cases :
    ((cache.parse parser dialect source).1 ∈ cache.trees ∧
      (cache.parse parser dialect source).1.key = (dialect, source) ∧
      (cache.parse parser dialect source).2.trees = (cache.parse parser dialect source).1 ::
        cache.trees.filter (·.key != (dialect, source))) ∨
    ((dialect, source) ∉ cache.keys ∧
      (cache.parse parser dialect source).1 = ⟨dialect, source, cache.parses, parser dialect source⟩ ∧
      (cache.parse parser dialect source).2.trees = ((cache.parse parser dialect source).1 ::
        cache.trees.filter (·.key != (dialect, source))).take cache.capacity) := by
  cases lookup : cache.trees.find? (·.isFor dialect source) with
  | some cached =>
    left
    have same := List.find?_some lookup
    rw [CachedTree.isFor_eq, beq_iff_eq] at same
    simp only [parse, lookup]
    exact ⟨List.mem_of_find?_eq_some lookup, same, rfl⟩
  | none =>
    right
    have absent := List.find?_eq_none.mp lookup
    simp only [parse, lookup]
    refine ⟨?_, trivial, rfl⟩
    intro member
    obtain ⟨cached, kept, same⟩ := List.mem_map.mp member
    exact absent cached kept (by rw [CachedTree.isFor_eq, same, beq_self_eq_true])

@[simp] theorem parse_parses : (cache.parse parser dialect source).2.parses = cache.parses + 1 := by
  unfold parse
  split <;> rfl

@[simp] theorem parse_capacity : (cache.parse parser dialect source).2.capacity = cache.capacity := by
  unfold parse
  split <;> rfl

theorem parse_key : (cache.parse parser dialect source).1.key = (dialect, source) := by
  rcases parse_cases parser cache dialect source with ⟨_, same, _⟩ | ⟨_, made, _⟩
  · exact same
  · rw [made]
    rfl

theorem keys_filter : (cache.trees.filter (·.key != (dialect, source))).map CachedTree.key =
    cache.keys.filter (· != (dialect, source)) := by
  rw [keys, List.filter_map]
  rfl

/-- A parse puts its pair first and, when a tree is added to a full cache, drops the pair parsed longest ago. -/
theorem keys_parse (unique : cache.keys.Nodup) (fits : cache.keys.length ≤ cache.capacity) :
    (cache.parse parser dialect source).2.keys =
      ((dialect, source) :: cache.keys.filter (· != (dialect, source))).take cache.capacity := by
  rcases parse_cases parser cache dialect source with ⟨member, same, trees⟩ | ⟨_, _, trees⟩
  · have kept : (dialect, source) ∈ cache.keys := by
      rw [← same]
      exact List.mem_map_of_mem member
    have size := List.length_erase_of_mem kept
    have inhabited := List.length_pos_of_mem kept
    rw [unique.erase_eq_filter] at size
    rw [keys, trees, List.map_cons, same, keys_filter, List.take_of_length_le]
    simp only [List.length_cons, size]
    omega
  · rw [keys, trees, List.map_take, List.map_cons, parse_key, keys_filter]

end Parse

theorem take_cons_filter_take {α : Type} [BEq α] [LawfulBEq α] {items : List α} (unique : items.Nodup) (bound : Nat)
    (head : α) : (head :: (items.take bound).filter (· != head)).take bound =
      (head :: items.filter (· != head)).take bound := by
  cases bound with
  | zero => rfl
  | succ bound =>
    rw [List.take_succ_cons, List.take_succ_cons]
    congr 1
    conv_rhs => rw [← List.take_append_drop (bound + 1) items, List.filter_append, List.take_append]
    by_cases small : items.length ≤ bound + 1
    · simp [List.drop_eq_nil_of_le small]
    · have size : bound ≤ ((items.take (bound + 1)).filter (· != head)).length := by
        rw [← (unique.sublist (List.take_sublist _ _)).erase_eq_filter, List.length_erase, List.length_take]
        split <;> omega
      simp [Nat.sub_eq_zero_of_le size]

theorem after_concat (capacity : Nat) (steps : List Step) (last : Step) :
    after parser capacity (steps ++ [last]) = apply parser (after parser capacity steps) last := by
  rw [after, List.foldl_append]
  rfl

theorem sinceClear_concat (steps : List Step) (last : Step) :
    sinceClear (steps ++ [last]) = record (sinceClear steps) last := by
  rw [sinceClear, List.foldl_append]
  rfl

theorem recency_clear (steps : List Step) : recency (steps ++ [.clear]) = [] := by
  rw [recency, sinceClear_concat]
  rfl

theorem recency_parse (steps : List Step) (dialect : Dialect) (source : List Char) :
    recency (steps ++ [.parse dialect source]) =
      (dialect, source) :: (recency steps).filter (· != (dialect, source)) := by
  rw [recency, sinceClear_concat, record, List.reverse_append, List.reverse_singleton, List.singleton_append,
    Text.distinct_cons]
  rfl

theorem nodup_recency (steps : List Step) : (recency steps).Nodup := Text.nodup_distinct _

structure Kept (capacity : Nat) (steps : List Step) (cache : Cache) : Prop where
  bound : cache.capacity = capacity
  order : cache.keys = (recency steps).take capacity
  made : ∀ cached ∈ cache.trees, cached.tree = parser cached.dialect cached.source
  origin : ∀ cached ∈ cache.trees, cached.number < cache.parses ∧
    ∃ earlier later, steps = earlier ++ .parse cached.dialect cached.source :: later ∧
      given parser capacity earlier cached.dialect cached.source = cached

variable {parser} in
theorem Kept.clear {capacity : Nat} {steps : List Step} {cache : Cache} (kept : Kept parser capacity steps cache) :
    Kept parser capacity (steps ++ [.clear]) cache.clear where
  bound := kept.bound
  order := by rw [recency_clear, List.take_nil]; rfl
  made := by intro cached member; cases member
  origin := by intro cached member; cases member

variable {parser} in
theorem Kept.parse {capacity : Nat} {steps : List Step}
    (kept : Kept parser capacity steps (after parser capacity steps)) (dialect : Dialect) (source : List Char) :
    Kept parser capacity (steps ++ [.parse dialect source])
      ((after parser capacity steps).parse parser dialect source).2 := by
  have unique : (after parser capacity steps).keys.Nodup := by
    rw [kept.order]
    exact (nodup_recency steps).sublist (List.take_sublist _ _)
  have fits : (after parser capacity steps).keys.length ≤ (after parser capacity steps).capacity := by
    rw [kept.order, kept.bound]
    exact List.length_take_le _ _
  -- A tree that is kept now was kept before or is the one that this parse made.
  have source_of (cached : CachedTree)
      (member : cached ∈ ((after parser capacity steps).parse parser dialect source).2.trees) :
      cached ∈ (after parser capacity steps).trees ∨
        cached = ((after parser capacity steps).parse parser dialect source).1 ∧
        cached.number = (after parser capacity steps).parses ∧ cached.tree = parser cached.dialect cached.source ∧
        cached.key = (dialect, source) := by
    rcases parse_cases parser (after parser capacity steps) dialect source with ⟨found, _, trees⟩ | ⟨_, new, trees⟩
    · rw [trees] at member
      rcases List.mem_cons.mp member with rfl | other
      · exact .inl found
      · exact .inl (List.mem_filter.mp other).1
    · rw [trees] at member
      rcases List.mem_cons.mp (List.mem_of_mem_take member) with rfl | other
      · exact .inr ⟨rfl, by rw [new], by rw [new], by rw [new]; rfl⟩
      · exact .inl (List.mem_filter.mp other).1
  refine ⟨?_, ?_, ?_, ?_⟩
  · rw [parse_capacity, kept.bound]
  · rw [keys_parse _ _ _ _ unique fits, kept.order, kept.bound, take_cons_filter_take (nodup_recency steps),
      recency_parse]
  · intro cached member
    rcases source_of cached member with old | ⟨_, _, tree, _⟩
    · exact kept.made cached old
    · exact tree
  · intro cached member
    rw [parse_parses]
    rcases source_of cached member with old | ⟨new, number, _, same⟩
    · obtain ⟨before, earlier, later, split, was⟩ := kept.origin cached old
      exact ⟨by omega, earlier, later ++ [.parse dialect source], by rw [split]; simp, was⟩
    · obtain ⟨rfl, rfl⟩ := Prod.mk.injEq _ _ _ _ ▸ same
      exact ⟨by omega, steps, [], rfl, new.symm⟩

theorem kept_after (capacity : Nat) (steps : List Step) : Kept parser capacity steps (after parser capacity steps) := by
  induction steps using List.reverseRecOn with
  | nil =>
    refine ⟨rfl, ?_, ?_, ?_⟩
    · simp [keys, after, recency, sinceClear, Text.distinct]
    · intro cached member; cases member
    · intro cached member; cases member
  | append_singleton steps last ih =>
    rw [after_concat]
    cases last with
    | clear => exact ih.clear
    | parse dialect source => exact ih.parse dialect source

theorem sinceClear_append (earlier : List Step) {later : List Step} (uncleared : .clear ∉ later) :
    sinceClear (earlier ++ later) = sinceClear earlier ++ sinceClear later := by
  induction later using List.reverseRecOn with
  | nil => simp [sinceClear]
  | append_singleton later last ih =>
    rw [List.mem_append, not_or] at uncleared
    rw [← List.append_assoc, sinceClear_concat, sinceClear_concat, ih uncleared.1]
    cases last with
    | clear => exact absurd (List.mem_singleton.mpr rfl) uncleared.2
    | parse dialect source => simp [record]

theorem mem_sinceClear {steps : List Step} (uncleared : .clear ∉ steps) (dialect : Dialect) (source : List Char) :
    (dialect, source) ∈ sinceClear steps ↔ .parse dialect source ∈ steps := by
  induction steps using List.reverseRecOn with
  | nil => simp [sinceClear]
  | append_singleton steps last ih =>
    rw [List.mem_append, not_or] at uncleared
    rw [sinceClear_concat]
    cases last with
    | clear => exact absurd (List.mem_singleton.mpr rfl) uncleared.2
    | parse first text => simp [record, ih uncleared.1]

theorem sinceClear_split {steps : List Step} {dialect : Dialect} {source : List Char}
    {before after : List (Dialect × List Char)} (split : sinceClear steps = before ++ (dialect, source) :: after) :
    ∃ earlier later, steps = earlier ++ .parse dialect source :: later ∧ .clear ∉ later ∧ sinceClear later = after := by
  induction steps using List.reverseRecOn generalizing after with
  | nil => simp [sinceClear] at split
  | append_singleton steps last ih =>
    rw [sinceClear_concat] at split
    cases last with
    | clear => simp [record] at split
    | parse first text =>
      rcases List.eq_nil_or_concat after with rfl | ⟨front, pair, rfl⟩
      · obtain ⟨_, same⟩ := List.append_inj' split rfl
        cases same
        exact ⟨steps, [], rfl, List.not_mem_nil, rfl⟩
      · rw [List.concat_eq_append, record, ← List.cons_append, ← List.append_assoc] at split
        obtain ⟨inner, same⟩ := List.append_inj' split rfl
        cases same
        obtain ⟨earlier, later, rfl, uncleared, since⟩ := ih inner
        refine ⟨earlier, later ++ [.parse first text], by simp, by simp [uncleared], ?_⟩
        rw [sinceClear_concat, since, List.concat_eq_append]
        rfl

/-- A pair stands among the latest ones exactly when too few others were parsed after it. -/
theorem mem_take_recency_iff (bound : Nat) (steps : List Step) (dialect : Dialect) (source : List Char) :
    (dialect, source) ∈ (recency steps).take bound ↔ IsRecent bound steps dialect source := by
  rw [recency, Text.mem_take_distinct_iff]
  constructor
  · rintro ⟨newer, older, split, absent, room⟩
    have ordered : sinceClear steps = older.reverse ++ (dialect, source) :: newer.reverse := by
      rw [← List.reverse_reverse (sinceClear steps), split]
      simp
    obtain ⟨earlier, later, rfl, uncleared, since⟩ := sinceClear_split ordered
    refine ⟨earlier, later, rfl, uncleared, ?_, ?_⟩
    · rw [← mem_sinceClear uncleared, since, List.mem_reverse]
      exact absent
    · rw [since, Text.length_distinct_reverse]
      exact room
  · rintro ⟨earlier, later, rfl, uncleared, last, room⟩
    refine ⟨(sinceClear later).reverse, (sinceClear earlier).reverse, ?_, ?_, ?_⟩
    · rw [show earlier ++ Step.parse dialect source :: later = earlier ++ [.parse dialect source] ++ later by simp,
        sinceClear_append _ uncleared, sinceClear_concat]
      simp [record]
    · rw [List.mem_reverse, mem_sinceClear uncleared]
      exact last
    · rw [Text.length_distinct_reverse]
      exact room

theorem parses_le_apply (cache : Cache) (step : Step) : cache.parses ≤ (apply parser cache step).parses := by
  cases step with
  | clear => exact Nat.le_refl _
  | parse dialect source => simp [apply]

theorem parses_after_le (capacity : Nat) (earlier later : List Step) :
    (after parser capacity earlier).parses ≤ (after parser capacity (earlier ++ later)).parses := by
  induction later using List.reverseRecOn with
  | nil => simp
  | append_singleton later last ih =>
    rw [← List.append_assoc, after_concat]
    exact Nat.le_trans ih (parses_le_apply parser _ last)

theorem given_number_lt (capacity : Nat) (earlier later : List Step) (dialect : Dialect) (source : List Char) :
    (given parser capacity earlier dialect source).number <
      (after parser capacity (earlier ++ .parse dialect source :: later)).parses := by
  have next := parses_after_le parser capacity (earlier ++ [.parse dialect source]) later
  rw [after_concat, apply, parse_parses, List.append_assoc, List.singleton_append] at next
  rcases parse_cases parser (after parser capacity earlier) dialect source with ⟨found, _, _⟩ | ⟨_, new, _⟩
  · have old := ((kept_after parser capacity earlier).origin _ found).1
    rw [given]
    omega
  · rw [given, new]
    dsimp only
    omega

theorem isRepeated_iff (capacity : Nat) (steps : List Step) (dialect : Dialect) (source : List Char) :
    IsRepeated parser capacity steps dialect source ↔ IsRecent capacity steps dialect source := by
  have kept := kept_after parser capacity steps
  rw [← mem_take_recency_iff, ← kept.order]
  constructor
  · rintro ⟨earlier, first, text, later, rfl, same⟩
    rcases parse_cases parser (after parser capacity (earlier ++ .parse first text :: later)) dialect source with
      ⟨found, key, _⟩ | ⟨_, new, _⟩
    · rw [← key]
      exact List.mem_map_of_mem found
    · have older := given_number_lt parser capacity earlier later first text
      rw [same, given, new] at older
      exact absurd older (Nat.lt_irrefl _)
  · intro member
    rcases parse_cases parser (after parser capacity steps) dialect source with ⟨found, key, _⟩ | ⟨absent, _, _⟩
    · obtain ⟨_, earlier, later, split, was⟩ := kept.origin _ found
      exact ⟨earlier, _, _, later, split, was⟩
    · exact absurd member absent

theorem given_tree (capacity : Nat) (steps : List Step) (dialect : Dialect) (source : List Char) :
    (given parser capacity steps dialect source).tree = parser dialect source := by
  rcases parse_cases parser (after parser capacity steps) dialect source with ⟨found, key, _⟩ | ⟨_, new, _⟩
  · have own := (kept_after parser capacity steps).made _ found
    obtain ⟨first, text⟩ := Prod.mk.injEq _ _ _ _ ▸ key
    rw [given, own, first, text]
  · rw [given, new]

/-- After every run the cache holds the pairs parsed last, as many as fit, the latest first; every parse gives the
tree of its own source, and it gives one that an earlier parse gave exactly when the pair was parsed before without a
clear since and fewer other pairs than fit have come after it. -/
theorem after_holds_latest (capacity : Nat) (steps : List Step) :
    (after parser capacity steps).keys = (recency steps).take capacity ∧
    (after parser capacity steps).trees.length = min capacity (Text.distinct (sinceClear steps)).length ∧
    ∀ dialect source, (given parser capacity steps dialect source).key = (dialect, source) ∧
      (given parser capacity steps dialect source).tree = parser dialect source ∧
      (IsRepeated parser capacity steps dialect source ↔ IsRecent capacity steps dialect source) := by
  have kept := kept_after parser capacity steps
  refine ⟨kept.order, ?_, ?_⟩
  · have size := congrArg List.length kept.order
    rw [keys, List.length_map, List.length_take, recency, Text.length_distinct_reverse] at size
    exact size
  · intro dialect source
    exact ⟨parse_key _ _ _ _, given_tree parser capacity steps dialect source,
      isRepeated_iff parser capacity steps dialect source⟩

end Cache
end Script

namespace Usage

/-- A scan that takes its tree from the cache, after whatever run, gives what a scan of the source alone gives. -/
theorem ofTree_given (capacity : Nat) (steps : List Script.Cache.Step) (site : Site) (source : String) :
    ofTree site source (Script.Cache.given Script.parse capacity steps (.ofPath site.file) source.toList).tree =
      ofSource site source := by
  rw [Script.Cache.given_tree, ofSource]

end Usage
end EnvAudit
