import EnvAudit.Proofs.Script.Placement
import EnvAudit.Script.Grammar

/-! How parsers lay out what they read. A parser that reads nodes takes them from the source in order: it starts where
the last one stopped, and its nodes lie between the two places. This is a property of the combinators, so it is passed
on by instances: a rule of the grammar has it as soon as the rules have it that it is put together from. -/
namespace EnvAudit.Script
open EnvAudit.Script.Parser

def Stands (source : List Char) (i : Nat) (r : Reading) : Prop :=
  ∃ k, r.rest = source.drop k ∧ r.place = placeAt source k ∧ Laid source i r.comments k

/-- A parser goes on behind nodes that were read: what it shows takes their place, laid from where they began up to
where the parser stops. -/
class Continues {α : Type} (source : List Char) (done : List Node) (shows : α → Option (List Node))
    (parser : Parser α) : Prop where
  laid : ∀ {i j : Nat} {r next : Reading} {result : α} {nodes : List Node}, Laid source i done j → Stands source j r →
    parser r = some (result, next) → shows result = some nodes →
    ∃ k, j ≤ k ∧ Laid source i nodes k ∧ Stands source k next

abbrev Reads (source : List Char) (done : List Node) (grammar : Grammar) : Prop := Continues source done some grammar

abbrev Offers (source : List Char) (done : List Node) (parser : Parser (Option (List Node))) : Prop :=
  Continues source done id parser

abbrev Lays (source : List Char) (grammar : Grammar) : Prop := Reads source [] grammar

/-- A parser takes nothing but blanks and comments, and those wait for the next token. -/
class Peeks {α : Type} (source : List Char) (parser : Parser α) : Prop where
  stands : ∀ {j : Nat} {r next : Reading} {result : α}, Stands source j r → parser r = some (result, next) →
    Stands source j next

class Regroups (source : List Char) (done result : List Node) : Prop where
  laid : ∀ {i j : Nat}, Laid source i done j → Laid source i result j

class Affirmed (condition : Bool) : Prop where
  eq_true : condition = true

instance affirmed_true : Affirmed true := ⟨rfl⟩

variable {source : List Char} {done : List Node} {α β : Type}

section Nodes
variable {first second front back result : List Node}

instance regroups_self : Regroups source done done := ⟨id⟩

instance regroups_append [one : Regroups source first front] [other : Regroups source second back] :
    Regroups source (first ++ second) (front ++ back) where
  laid laid :=
    have ⟨_, here, later⟩ := laid.append_inv
    (one.laid here).append (other.laid later)

instance regroups_wrap {kind : Kind} [parts : Regroups source done result] [composite : Affirmed kind.isComposite] :
    Regroups source done (wrap kind result) := ⟨fun laid => (parts.laid laid).wrap composite.eq_true⟩

instance regroups_construct [parts : Regroups source done result] : Regroups source done (construct result) :=
  ⟨fun laid => (parts.laid laid).wrap rfl⟩

instance regroups_playing {role : Role} [nodes : Regroups source done result] :
    Regroups source done (playing role result) := ⟨fun laid => (nodes.laid laid).playing role⟩

instance regroups_ite {condition : Prop} [Decidable condition] [one : Regroups source done first]
    [other : Regroups source done second] : Regroups source done (if condition then first else second) where
  laid laid := by
    split
    · exact one.laid laid
    · exact other.laid laid

-- Leaving nodes out is tried last, after all ways to keep them.
instance (priority := low) regroups_back [later : Regroups source second result] :
    Regroups source (first ++ second) result where
  laid laid :=
    have ⟨_, here, rest⟩ := laid.append_inv
    (later.laid rest).earlier here.le

instance (priority := low) regroups_front [earlier : Regroups source first result] :
    Regroups source (first ++ second) result where
  laid laid :=
    have ⟨_, here, rest⟩ := laid.append_inv
    (earlier.laid here).longer rest.le

theorem Regroups.trans (one : Regroups source done first) (other : Regroups source first result) :
    Regroups source done result := ⟨other.laid ∘ one.laid⟩

end Nodes

theorem bind_eq_some {parser : Parser α} {go : α → Parser β} {r next : Reading} {result : β}
    (given : (parser >>= go) r = some (result, next)) :
    ∃ a mid, parser r = some (a, mid) ∧ go a mid = some (result, next) := by
  obtain ⟨⟨a, mid⟩, here, later⟩ := Option.bind_eq_some_iff.mp given
  exact ⟨a, mid, here, later⟩

section Peeking
variable {parser : Parser α} {go : α → Parser β}

theorem Peeks.look [first : Peeks source parser] (others : ∀ a, Peeks source (go a)) :
    Peeks source (parser >>= go) where
  stands stands given :=
    have ⟨a, _, here, later⟩ := bind_eq_some given
    (others a).stands (first.stands stands here) later

instance peeks_bind [Peeks source parser] [∀ a, Peeks source (go a)] : Peeks source (parser >>= go) :=
  .look fun _ => inferInstance

instance peeks_pure {a : α} : Peeks source (pure a) where
  stands stands given := by
    cases given
    exact stands

instance peeks_fail : Peeks source (fail : Parser α) := ⟨fun _ given => by cases given⟩

instance peeks_ite {condition : Prop} [Decidable condition] {other : Parser α} [Peeks source parser]
    [Peeks source other] : Peeks source (if condition then parser else other) := by
  split <;> infer_instance

instance peeks_get : Peeks source (get : Parser Reading) where
  stands stands given := by
    cases given
    exact stands

instance peeks_require {condition : Bool} : Peeks source (require condition) := by
  unfold require
  infer_instance

instance peeks_rest : Peeks source rest := by
  unfold rest
  infer_instance

end Peeking

section Going
variable {shows : β → Option (List Node)} {parser : Parser α} {go : α → Parser β} {one other : Parser β}
  {grammar : Grammar} {go' : List Node → Parser β} {result : List Node}

theorem Continues.look [first : Peeks source parser] (others : ∀ a, Continues source done shows (go a)) :
    Continues source done shows (parser >>= go) where
  laid laid stands given shown :=
    have ⟨a, _, here, later⟩ := bind_eq_some given
    (others a).laid laid (first.stands stands here) later shown

theorem Continues.bind (first : Lays source grammar)
    (others : ∀ nodes, Continues source (done ++ nodes) shows (go' nodes)) :
    Continues source done shows (grammar >>= go') where
  laid laid stands given shown :=
    have ⟨nodes, _, here, later⟩ := bind_eq_some given
    have ⟨_, le, new, stands⟩ := first.laid (.nil (Nat.le_refl _)) stands here rfl
    have ⟨k, le', all, stands⟩ := (others nodes).laid (laid.append new) stands later shown
    ⟨k, Nat.le_trans le le', all, stands⟩

/-- A grammar that goes on behind all that was read hands on what it makes of it. -/
theorem Continues.extend (first : Reads source done grammar)
    (others : ∀ nodes, Continues source nodes shows (go' nodes)) : Continues source done shows (grammar >>= go') where
  laid laid stands given shown :=
    have ⟨nodes, _, here, later⟩ := bind_eq_some given
    have ⟨_, le, new, stands⟩ := first.laid laid stands here rfl
    have ⟨k, le', all, stands⟩ := (others nodes).laid new stands later shown
    ⟨k, Nat.le_trans le le', all, stands⟩

theorem Continues.regroup (regroups : Regroups source done result) (continues : Continues source result shows one) :
    Continues source done shows one := ⟨fun laid => continues.laid (regroups.laid laid)⟩

instance continues_look [Peeks source parser] [∀ a, Continues source done shows (go a)] :
    Continues source done shows (parser >>= go) := .look fun _ => inferInstance

-- Tried last: a parser that only looks adds nothing to the row, and one that goes on behind the row takes its place.
instance (priority := low) continues_bind [Lays source grammar]
    [∀ nodes, Continues source (done ++ nodes) shows (go' nodes)] :
    Continues source done shows (grammar >>= go') := .bind inferInstance fun _ => inferInstance

instance continues_first [Lays source grammar] [∀ nodes, Continues source nodes shows (go' nodes)] :
    Continues source [] shows (grammar >>= go') := .extend inferInstance fun _ => inferInstance

instance (priority := low) continues_behind {grammar : Grammar} [reads : Lays source grammar] :
    Reads source done grammar where
  laid laid stands given shown :=
    have ⟨k, le, new, stands⟩ := reads.laid (.nil (Nat.le_refl _)) stands given shown
    ⟨k, le, new.earlier laid.le, stands⟩

instance continues_ite {condition : Prop} [Decidable condition] [Continues source done shows one]
    [Continues source done shows other] : Continues source done shows (if condition then one else other) := by
  split <;> infer_instance

instance (priority := high) continues_joined {condition : Prop} [Decidable condition] {other : Grammar}
    [Lays source grammar] [Lays source other] [∀ nodes, Continues source (done ++ nodes) shows (go' nodes)] :
    Continues source done shows (if condition then grammar >>= go' else other >>= go') := by
  split <;> exact .bind inferInstance fun _ => inferInstance

instance continues_pure [regroups : Regroups source done result] : Reads source done (pure result) where
  laid laid stands given shown := by
    cases given
    cases shown
    exact ⟨_, Nat.le_refl _, regroups.laid laid, stands⟩

instance continues_some [regroups : Regroups source done result] : Offers source done (pure (some result)) where
  laid laid stands given shown := by
    cases given
    cases shown
    exact ⟨_, Nat.le_refl _, regroups.laid laid, stands⟩

instance continues_none : Offers source done (pure none) where
  laid _ _ given shown := by
    cases given
    cases shown

instance continues_fail : Continues source done shows fail := ⟨fun _ _ given => by cases given⟩

instance continues_orElse [first : Continues source done shows one] [second : Continues source done shows other] :
    Continues source done shows (orElse one other) where
  laid laid stands given shown := by
    unfold orElse at given
    split at given
    · next read =>
      cases given
      exact first.laid laid stands read shown
    · exact second.laid laid stands given shown

end Going

section Repeating
variable {grammar : Grammar} {item : List Node → Parser (Option (List Node))}

instance offers_attempt [reads : Reads source done grammar] : Offers source done (attempt grammar) where
  laid laid stands given shown := by
    unfold attempt at given
    split at given <;> cases given
    · next read =>
      cases shown
      exact reads.laid laid stands read rfl
    · cases shown

instance lays_possibly [reads : Lays source grammar] : Lays source (possibly grammar) where
  laid laid stands given shown := by
    obtain ⟨found, mid, tried, same⟩ := bind_eq_some given
    unfold attempt at tried
    split at tried <;> cases tried <;> cases same <;> cases shown
    · next read => exact reads.laid laid stands read rfl
    · exact ⟨_, Nat.le_refl _, .nil laid.le, stands⟩

instance lays_given {condition : Parser Bool} [Peeks source condition] [Lays source grammar] :
    Lays source (given condition grammar) := by
  unfold given
  infer_instance

instance lays_asConstruct [Lays source grammar] : Lays source (asConstruct grammar) := by
  unfold asConstruct
  infer_instance

class LayAll (source : List Char) (grammars : List Grammar) : Prop where
  lays : ∀ grammar ∈ grammars, Lays source grammar

instance layAll_nil : LayAll source [] := ⟨fun _ member => by cases member⟩

instance layAll_cons {grammars : List Grammar} [first : Lays source grammar] [others : LayAll source grammars] :
    LayAll source (grammar :: grammars) := ⟨List.forall_mem_cons.mpr ⟨first, others.lays⟩⟩

theorem lays_firstOf_of {grammars : List Grammar} (all : ∀ grammar ∈ grammars, Lays source grammar) :
    Lays source (firstOf grammars) := by
  fun_induction firstOf grammars with
  | case1 => infer_instance
  | case2 last => exact all last (List.mem_singleton_self last)
  | case3 first others _ ih =>
    have := all first List.mem_cons_self
    have := ih fun grammar member => all grammar (List.mem_cons_of_mem first member)
    infer_instance

instance lays_firstOf {grammars : List Grammar} [all : LayAll source grammars] : Lays source (firstOf grammars) :=
  lays_firstOf_of all.lays

theorem repeatUntil_laid [reads : Lays source grammar] {stop : Reading → Bool} {bound i j : Nat}
    {read : List (List Node)} {r next : Reading} {nodes : List Node} (laid : Laid source i read.reverse.flatten j)
    (stands : Stands source j r) (given : repeatUntil stop grammar bound read r = some (nodes, next)) :
    ∃ k, j ≤ k ∧ Laid source i nodes k ∧ Stands source k next := by
  induction bound generalizing read j r with
  | zero => cases given
  | succ bound ih =>
    rw [repeatUntil] at given
    split at given
    · cases given
      exact ⟨j, Nat.le_refl j, laid, stands⟩
    · split at given
      · cases given
      · next new mid here =>
        split at given
        · cases given
        · obtain ⟨k, le, added, stands⟩ := reads.laid (.nil (Nat.le_refl j)) stands here rfl
          have laid : Laid source i (new :: read).reverse.flatten k := by simpa using laid.append added
          obtain ⟨k', le', all, stands⟩ := ih laid stands given
          exact ⟨k', Nat.le_trans le le', all, stands⟩

instance lays_manyUntil [Lays source grammar] {stop : Reading → Bool} : Lays source (manyUntil stop grammar) where
  laid laid stands given shown := by
    cases shown
    have nothing : Laid source _ (List.reverse []).flatten _ := laid
    exact repeatUntil_laid nothing stands given

theorem repeatWhile_laid [steps : ∀ done, Offers source done (item done)] {bound i j : Nat} {r next : Reading}
    {nodes : List Node} (laid : Laid source i done j) (stands : Stands source j r)
    (given : repeatWhile item bound done r = some (nodes, next)) :
    ∃ k, j ≤ k ∧ Laid source i nodes k ∧ Stands source k next := by
  induction bound generalizing done j r with
  | zero =>
    cases given
    exact ⟨j, Nat.le_refl j, laid, stands⟩
  | succ bound ih =>
    rw [repeatWhile] at given
    split at given
    · cases given
    · cases given
      exact ⟨j, Nat.le_refl j, laid, stands⟩
    · next new mid here =>
      obtain ⟨k, le, laid, stands⟩ := (steps done).laid laid stands here rfl
      obtain ⟨k', le', all, stands⟩ := ih laid stands given
      exact ⟨k', Nat.le_trans le le', all, stands⟩

instance reads_growing {start : List Node} [regroups : Regroups source done start]
    [∀ done, Offers source done (item done)] : Reads source done (growing item start) where
  laid laid stands given shown := by
    cases shown
    exact repeatWhile_laid (regroups.laid laid) stands given

variable {shows : β → Option (List Node)} {go : List Node → Parser β}

instance continues_growing_last {front back start : List Node} [regroups : Regroups source back start]
    [∀ done, Offers source done (item done)] [others : ∀ nodes, Continues source (front ++ nodes) shows (go nodes)] :
    Continues source (front ++ back) shows (growing item start >>= go) where
  laid laid stands given shown :=
    have ⟨nodes, _, here, later⟩ := bind_eq_some given
    have ⟨_, before, last⟩ := laid.append_inv
    have ⟨_, le, new, stands⟩ := reads_growing.laid last stands here rfl
    have ⟨k, le', all, stands⟩ := (others nodes).laid (before.append new) stands later shown
    ⟨k, Nat.le_trans le le', all, stands⟩

end Repeating

end EnvAudit.Script
