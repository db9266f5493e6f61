import EnvAudit.Pattern.Reader
import Mathlib.Data.List.Basic

/-! How the reader of patterns goes through tokens. In front of some tokens it takes the first one, and each of the
plain forms that a pattern is made of adds its expression to those read so far. -/
namespace EnvAudit.Pattern
open Reader

inductive IsToken : Token → Prop
  | char {c : Char} (other : c ≠ '\\') : IsToken [c]
  | escape (c : Char) : IsToken ['\\', c]

def inFront (length index : Nat) (tokens : List Token) : Source where
  length
  next := tokens.head?
  rest := tokens.tail.flatten
  index := index + (tokens.head?.getD []).length
  options := {}

def IsUnmarked (tokens : List Token) : Prop := tokens.head? ≠ some ['?'] ∧ tokens.head? ≠ some ['+']

def specials : List Char := "()[]\x7b\x7d?*+-|^$\\.&~# \t\n\r\x0b\x0c".toList

def literal (c : Char) : Token := if c ∈ specials then ['\\', c] else [c]

theorem bind_of {α β : Type} {x : Reader α} {f : α → Reader β} {s t : Source} {a : α} (ran : x s = .ok (a, t)) :
    (x >>= f) s = f a t := by
  change Except.bind (x s) _ = _
  rw [ran]
  rfl

theorem lift_of {α : Type} {x : Except Fault α} {a : α} (given : x = .ok a) (s : Source) :
    (liftM x : Reader α) s = .ok (a, s) := by
  rw [given]
  rfl

section Tokens
variable {length index : Nat} {token : Token} {tokens : List Token}

theorem isToken_literal (c : Char) : IsToken (literal c) := by
  rw [literal]
  split
  · exact .escape c
  · next plain =>
    refine .char ?_
    rintro rfl
    exact plain (by decide)

theorem IsToken.ne_nil (valid : IsToken token) : token ≠ [] := by
  cases valid <;> exact List.cons_ne_nil _ _

theorem shift_inFront (valid : ∀ token ∈ tokens, IsToken token) (next : Option Token) :
    Source.shift { length, next, rest := tokens.flatten, index, options := {} } =
      .ok (inFront length index tokens) := by
  cases tokens with
  | nil => rfl
  | cons token tokens =>
    cases valid token List.mem_cons_self with
    | char other =>
      dsimp only [Source.shift, List.flatten_cons, List.singleton_append]
      split
      · next empty => cases empty
      · next same => exact absurd (List.cons.inj same).1 other
      · next same => exact absurd (List.cons.inj same).1 other
      · next same =>
        cases same
        rfl
    | escape c => rfl

theorem take_inFront (valid : ∀ token ∈ tokens, IsToken token) :
    (take : Reader _) (inFront length index (token :: tokens)) =
      .ok (some token, inFront length (index + token.length) tokens) := by
  have shifted : (inFront length index (token :: tokens)).shift = .ok (inFront length (index + token.length) tokens) :=
    shift_inFront valid (some token)
  rw [take, bind_of (a := inFront length index (token :: tokens)) rfl, bind_of (lift_of shifted _)]
  rfl

theorem peek_inFront :
    (peek : Reader _) (inFront length index tokens) = .ok (tokens.head?, inFront length index tokens) := rfl

theorem accept_inFront {c : Char} (other : tokens.head? ≠ some [c]) :
    (accept c) (inFront length index tokens) = .ok (false, inFront length index tokens) := by
  rw [accept, bind_of peek_inFront, if_neg (by simpa using other)]
  rfl

theorem accept_inFront_cons {c : Char} (valid : ∀ token ∈ tokens, IsToken token) :
    (accept c) (inFront length index ([c] :: tokens)) = .ok (true, inFront length (index + 1) tokens) := by
  rw [accept, bind_of peek_inFront, if_pos (by simp), bind_of (take_inFront valid)]
  rfl

theorem repeatLast_inFront (unmarked : IsUnmarked tokens) (here least : Nat) (most : Option Nat) (body : Expr)
    (done : List (Expr × Repeatable)) :
    repeatLast token here least most ((body, .plain) :: done) (inFront length index tokens) =
      .ok ((.repeated .greedy least most body, .repetition) :: done, inFront length index tokens) := by
  have eagerness : readEagerness (inFront length index tokens) = .ok (.greedy, inFront length index tokens) := by
    rw [readEagerness]
    exact (bind_of (accept_inFront unmarked.1)).trans (bind_of (accept_inFront unmarked.2))
  rw [repeatLast, bind_of eagerness]
  rfl

theorem readEscape_special {c : Char} (special : c ∈ specials) (s : Source) :
    readEscape ['\\', c] {} s = .ok (charExpr c.toNat {}, s) := by
  have table : specials = ['(', ')', '[', ']', '\x7b', '\x7d', '?', '*', '+', '-', '|', '^', '$', '\\', '.', '&', '~',
    '#', ' ', '\t', '\n', '\r', '\x0b', '\x0c'] := by decide
  simp only [table, List.mem_cons, List.not_mem_nil, or_false] at special
  rcases special with rfl | rfl | rfl | rfl | rfl | rfl | rfl | rfl | rfl | rfl | rfl | rfl | rfl | rfl | rfl | rfl |
    rfl | rfl | rfl | rfl | rfl | rfl | rfl | rfl
  all_goals rfl

end Tokens

section Sequence
variable {length index depth bound : Nat} {tokens : List Token} {scope : Option Options} {first : Bool}
  {done : List (Expr × Repeatable)} {body : Expr}

theorem readSequence_any (valid : ∀ token ∈ tokens, IsToken token) (plain : scope.getD {} = {}) :
    readSequence scope first depth done (bound + 1) (inFront length index (['.'] :: tokens)) =
      readSequence scope first depth ((.any false, .plain) :: done) bound (inFront length (index + 1) tokens) := by
  rw [readSequence, bind_of peek_inFront]
  refine (bind_of (take_inFront valid)).trans ?_
  change readSequence scope first depth ((.any (scope.getD {}).dotAll, .plain) :: done) bound
    (inFront length (index + 1) tokens) = _
  rw [plain]

theorem readSequence_star (valid : ∀ token ∈ tokens, IsToken token) (unmarked : IsUnmarked tokens) :
    readSequence scope first depth ((body, .plain) :: done) (bound + 1) (inFront length index (['*'] :: tokens)) =
      readSequence scope first depth ((.repeated .greedy 0 none body, .repetition) :: done) bound
        (inFront length (index + 1) tokens) := by
  rw [readSequence, bind_of peek_inFront]
  refine (bind_of (take_inFront valid)).trans ?_
  change (repeatLast ['*'] _ 0 none ((body, .plain) :: done) >>= fun done =>
    readSequence scope first depth done bound) (inFront length (index + 1) tokens) = _
  rw [bind_of (repeatLast_inFront unmarked _ _ _ _ _)]

theorem readSequence_optional (valid : ∀ token ∈ tokens, IsToken token) (unmarked : IsUnmarked tokens) :
    readSequence scope first depth ((body, .plain) :: done) (bound + 1) (inFront length index (['?'] :: tokens)) =
      readSequence scope first depth ((.repeated .greedy 0 (some 1) body, .repetition) :: done) bound
        (inFront length (index + 1) tokens) := by
  rw [readSequence, bind_of peek_inFront]
  refine (bind_of (take_inFront valid)).trans ?_
  change (repeatLast ['?'] _ 0 (some 1) ((body, .plain) :: done) >>= fun done =>
    readSequence scope first depth done bound) (inFront length (index + 1) tokens) = _
  rw [bind_of (repeatLast_inFront unmarked _ _ _ _ _)]

theorem readSequence_literal (valid : ∀ token ∈ tokens, IsToken token) (plain : scope.getD {} = {}) (c : Char) :
    readSequence scope first depth done (bound + 1) (inFront length index (literal c :: tokens)) =
      readSequence scope first depth ((charExpr c.toNat {}, .plain) :: done) bound
        (inFront length (index + (literal c).length) tokens) := by
  by_cases special : c ∈ specials
  · rw [literal, if_pos special, readSequence, bind_of peek_inFront]
    refine (bind_of (take_inFront valid)).trans ?_
    refine (bind_of (a := inFront length (index + 2) tokens) rfl).trans ?_
    change (readEscape ['\\', c] (scope.getD {}) >>= _) (inFront length (index + 2) tokens) = _
    rw [plain, bind_of (readEscape_special special _)]
    rfl
  · have other (d : Char) (listed : d ∈ specials) : c ≠ d := by
      rintro rfl
      exact special listed
    have inside : ([c] == ['|'] || [c] == [')']) = false := by
      simp [other '|' (by decide), other ')' (by decide)]
    rw [literal, if_neg special, readSequence, bind_of peek_inFront]
    dsimp only [List.head?_cons]
    rw [inside, if_neg Bool.false_ne_true]
    refine (bind_of (take_inFront valid)).trans ?_
    refine (bind_of (a := inFront length (index + 1) tokens) rfl).trans ?_
    have options : scope.getD (inFront length (index + 1) tokens).options = {} := plain
    rw [options]
    split
    case h_10 => rfl
    all_goals exact absurd rfl (other _ (by decide))

theorem readSequence_exclusion (valid : ∀ token ∈ tokens, IsToken token) (plain : scope.getD {} = {}) :
    readSequence scope first depth done (bound + 1)
        (inFront length index (['['] :: ['^'] :: ['/'] :: [']'] :: tokens)) =
      readSequence scope first depth ((.set true [.char '/'.toNat] {}, .plain) :: done) bound
        (inFront length (index + 4) tokens) := by
  have last : ∀ token ∈ [']'] :: tokens, IsToken token := List.forall_mem_cons.mpr ⟨.char (by decide), valid⟩
  have inner : ∀ token ∈ ['/'] :: [']'] :: tokens, IsToken token := List.forall_mem_cons.mpr ⟨.char (by decide), last⟩
  have outer : ∀ token ∈ ['^'] :: ['/'] :: [']'] :: tokens, IsToken token :=
    List.forall_mem_cons.mpr ⟨.char (by decide), inner⟩
  have closed (opening bound : Nat) : readMembers opening [.char '/'.toNat] (bound + 1)
      (inFront length (index + 3) ([']'] :: tokens)) = .ok ([.char '/'.toNat], inFront length (index + 4) tokens) := by
    rw [readMembers, bind_of (take_inFront valid)]
    rfl
  have members (opening bound : Nat) : readMembers opening [] (bound + 2)
      (inFront length (index + 2) (['/'] :: [']'] :: tokens)) =
        .ok ([.char '/'.toNat], inFront length (index + 4) tokens) := by
    rw [readMembers, bind_of (take_inFront last)]
    change (readMember ['/'] >>= _) (inFront length (index + 3) ([']'] :: tokens)) = _
    rw [bind_of (a := .char '/'.toNat) (t := inFront length (index + 3) ([']'] :: tokens)) rfl,
      bind_of (accept_inFront (by simp))]
    exact closed opening bound
  have set : readSet {} (inFront length (index + 1) (['^'] :: ['/'] :: [']'] :: tokens)) =
      .ok (.set true [.char '/'.toNat] {}, inFront length (index + 4) tokens) := by
    rw [readSet]
    refine (bind_of (a := inFront length (index + 1) (['^'] :: ['/'] :: [']'] :: tokens)) rfl).trans ?_
    refine (bind_of (accept_inFront_cons inner)).trans ?_
    refine (bind_of (a := inFront length (index + 2) (['/'] :: [']'] :: tokens)) rfl).trans ?_
    rw [bind_of (members _ _)]
    rfl
  rw [readSequence, bind_of peek_inFront]
  refine (bind_of (take_inFront outer)).trans ?_
  change (readSet (scope.getD {}) >>= fun e => readSequence scope first depth ((e, .plain) :: done) bound)
    (inFront length (index + 1) (['^'] :: ['/'] :: [']'] :: tokens)) = _
  rw [plain, bind_of set]

theorem readSequence_group (valid : ∀ token ∈ tokens, IsToken token) (plain : scope.getD {} = {}) {inner : List Token}
    (inside : ∀ token ∈ inner, IsToken token) (levels : 2 ≤ depth) {index' : Nat}
    (read : readAlternatives (some {}) false (depth - 2) bound (inFront length (index + 3) (inner ++ [')'] :: tokens)) =
      .ok (body, inFront length index' ([')'] :: tokens))) :
    readSequence scope first depth done (bound + 2)
        (inFront length index (['('] :: ['?'] :: [':'] :: (inner ++ [')'] :: tokens))) =
      readSequence scope first depth ((body, .plain) :: done) bound (inFront length (index' + 1) tokens) := by
  have inside : ∀ token ∈ inner ++ [')'] :: tokens, IsToken token :=
    List.forall_mem_append.mpr ⟨inside, List.forall_mem_cons.mpr ⟨.char (by decide), valid⟩⟩
  have marked : ∀ token ∈ [':'] :: (inner ++ [')'] :: tokens), IsToken token :=
    List.forall_mem_cons.mpr ⟨.char (by decide), inside⟩
  have opened : ∀ token ∈ ['?'] :: [':'] :: (inner ++ [')'] :: tokens), IsToken token :=
    List.forall_mem_cons.mpr ⟨.char (by decide), marked⟩
  have kind (opening : Nat) (options : Options) :
      readGroupKind opening options (inFront length (index + 1) (['?'] :: [':'] :: (inner ++ [')'] :: tokens))) =
        .ok (.plain, inFront length (index + 3) (inner ++ [')'] :: tokens)) := by
    rw [readGroupKind, bind_of (accept_inFront_cons marked), if_neg (by decide), bind_of (take_inFront inside)]
    rfl
  have closed (opening : Nat) : closeGroup opening (inFront length index' ([')'] :: tokens)) =
      .ok ((), inFront length (index' + 1) tokens) := by
    rw [closeGroup]
    exact bind_of (accept_inFront_cons valid)
  have deeper : descend 2 depth (inFront length (index + 3) (inner ++ [')'] :: tokens)) =
      .ok (depth - 2, inFront length (index + 3) (inner ++ [')'] :: tokens)) := by
    rw [descend, if_neg (Nat.not_lt.mpr levels)]
    rfl
  have entered (more : Nat) : readSequence scope first depth done (more + 1)
      (inFront length index (['('] :: ['?'] :: [':'] :: (inner ++ [')'] :: tokens))) =
        readGroup scope first depth done more
          (inFront length (index + 1) (['?'] :: [':'] :: (inner ++ [')'] :: tokens))) := by
    rw [readSequence, bind_of peek_inFront]
    exact bind_of (take_inFront opened)
  rw [entered, readGroup]
  refine (bind_of (a := inFront length (index + 1) (['?'] :: [':'] :: (inner ++ [')'] :: tokens))) rfl).trans ?_
  refine (bind_of (a := inFront length (index + 1) (['?'] :: [':'] :: (inner ++ [')'] :: tokens))) rfl).trans ?_
  rw [bind_of (kind _ _)]
  have options : scope.getD (inFront length (index + 1) (['?'] :: [':'] :: (inner ++ [')'] :: tokens))).options = {} :=
    plain
  dsimp only
  rw [bind_of deeper, options, bind_of read, bind_of (closed _)]

theorem readSequence_closed : readSequence scope first depth done (bound + 1) (inFront length index ([')'] :: tokens)) =
    .ok (.sequence (done.reverse.map (·.1)), inFront length index ([')'] :: tokens)) := by
  rw [readSequence, bind_of peek_inFront]
  rfl

theorem readSequence_end : readSequence scope first depth done (bound + 1) (inFront length index []) =
    .ok (.sequence (done.reverse.map (·.1)), inFront length index []) := by
  rw [readSequence, bind_of peek_inFront]
  rfl

theorem readSequence_textEnding (plain : scope.getD {} = {}) :
    readSequence scope first depth done (bound + 2) (inFront length index [['\\', 'Z']]) =
      .ok (.sequence (done.reverse.map (·.1) ++ [.place .textEnding]), inFront length (index + 2) []) := by
  have placed (more : Nat) : readSequence scope first depth done (more + 1) (inFront length index [['\\', 'Z']]) =
      readSequence scope first depth ((.place .textEnding, .place) :: done) more (inFront length (index + 2) []) := by
    rw [readSequence, bind_of peek_inFront]
    refine (bind_of (take_inFront (List.forall_mem_nil _))).trans ?_
    refine (bind_of (a := inFront length (index + 2) []) rfl).trans ?_
    change (readEscape ['\\', 'Z'] (scope.getD {}) >>= _) (inFront length (index + 2) []) = _
    rw [plain]
    rfl
  rw [placed, readSequence_end, List.reverse_cons, List.map_append]
  rfl

theorem readAlternatives_single {s : Source} (read : readSequence scope (first && scope.isNone) depth [] bound s =
    .ok (body, inFront length index tokens)) (last : tokens.head? ≠ some ['|']) :
    readAlternatives scope first depth (bound + 1) s = .ok (body, inFront length index tokens) := by
  rw [readAlternatives, bind_of read, bind_of (accept_inFront last)]
  rfl

end Sequence
end EnvAudit.Pattern
