import EnvAudit.Glob
import EnvAudit.Proofs.Pattern.Coverage
import EnvAudit.Proofs.Pattern.Reading

/-! What a glob matches. A glob reads in one way only as pieces, and it matches exactly the paths that can be cut into
consecutive parts such that each piece takes one. So does its regular expression, in which every piece is written as an
expression of its own and the end of the text comes last. It is a valid pattern whatever the glob. -/
namespace EnvAudit.Glob
open Pattern

def Piece.text : Piece → List Char
  | .directories => "**/".toList
  | .deep => "**".toList
  | .component => "*".toList
  | .one => "?".toList
  | .char c => [c]

def Piece.IsProper : Piece → Prop
  | .char c => c ≠ '*' ∧ c ≠ '?'
  | _ => True

/-- The pieces of a glob from left to right, each the longest that its rest begins with. -/
inductive ReadsAs : List Char → List Piece → Prop
  | nil : ReadsAs [] []
  | cons (piece : Piece) {rest : List Char} {others : List Piece} (proper : piece.IsProper)
      (longest : ∀ other : Piece, other.IsProper → other.text <+: piece.text ++ rest →
        other.text.length ≤ piece.text.length)
      (later : ReadsAs rest others) : ReadsAs (piece.text ++ rest) (piece :: others)

inductive Piece.Takes : Piece → List Char → Prop
  | nothing : Takes .directories []
  | directories {part : List Char} (inLine : '\n' ∉ part) : Takes .directories (part ++ ['/'])
  | deep {part : List Char} (inLine : '\n' ∉ part) : Takes .deep part
  | component {part : List Char} (inComponent : '/' ∉ part) : Takes .component part
  | one {c : Char} (inComponent : c ≠ '/') : Takes .one [c]
  | char (c : Char) : Takes (.char c) [c]

section Reading
variable {rest : List Char}

theorem pieces_directories : pieces ('*' :: '*' :: '/' :: rest) = .directories :: pieces rest := by rw [pieces]

theorem pieces_deep (other : ∀ more, rest ≠ '/' :: more) : pieces ('*' :: '*' :: rest) = .deep :: pieces rest := by
  rw [pieces]
  exact fun more same => other more same

theorem pieces_component (other : ∀ more, rest ≠ '*' :: more) : pieces ('*' :: rest) = .component :: pieces rest := by
  rw [pieces]
  · exact fun more same => other _ same
  · exact fun more same => other _ same

theorem pieces_char {c : Char} (noStar : c ≠ '*') (noMark : c ≠ '?') : pieces (c :: rest) = .char c :: pieces rest := by
  rw [pieces]
  · exact fun more same => absurd same noStar
  · exact fun more same => absurd same noStar
  · exact fun same => absurd same noStar
  · exact fun same => absurd same noMark

end Reading

theorem ReadsAs.eq {glob : List Char} {tokens : List Piece} (reads : ReadsAs glob tokens) : tokens = pieces glob := by
  induction reads with
  | nil => rfl
  | @cons piece rest others proper longest later ih =>
    rw [ih]
    cases piece with
    | directories => exact pieces_directories.symm
    | deep =>
      refine (pieces_deep ?_).symm
      rintro more rfl
      have longer := longest .directories trivial ⟨more, rfl⟩
      simp [Piece.text] at longer
    | component =>
      refine (pieces_component ?_).symm
      rintro more rfl
      have longer := longest .deep trivial ⟨more, rfl⟩
      simp [Piece.text] at longer
    | one => rw [Piece.text]; rfl
    | char c => exact (pieces_char proper.1 proper.2).symm

theorem Piece.length_text_le {piece : Piece} {c : Char} {rest : List Char} (other : c ≠ '*')
    (begins : piece.text <+: c :: rest) : piece.text.length ≤ 1 := by
  cases piece with
  | directories => exact absurd (List.cons_prefix_cons.mp begins).1.symm other
  | deep => exact absurd (List.cons_prefix_cons.mp begins).1.symm other
  | component => exact Nat.le_refl 1
  | one => exact Nat.le_refl 1
  | char d => exact Nat.le_refl 1

theorem readsAs_pieces (glob : List Char) : ReadsAs glob (pieces glob) := by
  induction glob using pieces.induct with
  | case1 rest ih =>
    rw [pieces_directories]
    refine .cons .directories trivial ?_ ih
    intro other _ _
    cases other <;> simp [Piece.text]
  | case2 rest noSlash ih =>
    rw [pieces_deep noSlash]
    refine .cons .deep trivial ?_ ih
    intro other _ begins
    cases other with
    | directories =>
      obtain ⟨more, same⟩ := begins
      simp [Piece.text] at same
      exact absurd same.symm (noSlash more)
    | _ => simp [Piece.text]
  | case3 rest _ noStar ih =>
    rw [pieces_component noStar]
    refine .cons .component trivial ?_ ih
    intro other _ begins
    -- Only a further star could make a longer piece.
    have single (more : List Char) : ¬ '*' :: '*' :: more <+: '*' :: rest := by
      intro starred
      obtain ⟨after, same⟩ := (List.cons_prefix_cons.mp starred).2
      exact noStar _ same.symm
    cases other with
    | directories => exact absurd begins (single _)
    | deep => exact absurd begins (single _)
    | _ => simp [Piece.text]
  | case4 rest ih =>
    rw [pieces]
    exact .cons .one trivial (fun other _ => Piece.length_text_le (by decide)) ih
  | case5 c rest _ _ noStar noMark ih =>
    rw [pieces_char noStar noMark]
    exact .cons (.char c) ⟨noStar, noMark⟩ (fun other _ => Piece.length_text_le noStar) ih
  | case6 => exact .nil

section Taking
variable {text : List Char}

theorem takeSome_iff {among : Char → Bool} {fits : List Char → Bool} : takeSome among fits text = true ↔
    ∃ part rest, text = part ++ rest ∧ (∀ c ∈ part, among c = true) ∧ fits rest = true := by
  induction text with
  | nil =>
    rw [takeSome]
    constructor
    · exact fun holds => ⟨[], [], rfl, by simp, holds⟩
    · rintro ⟨part, rest, split, _, holds⟩
      rw [(List.nil_eq_append_iff.mp split).2] at holds
      exact holds
  | cons c text ih =>
    rw [takeSome, Bool.or_eq_true, Bool.and_eq_true, ih]
    constructor
    · rintro (here | ⟨first, part, rest, rfl, taken, holds⟩)
      · exact ⟨[], c :: text, rfl, by simp, here⟩
      · exact ⟨c :: part, rest, rfl, List.forall_mem_cons.mpr ⟨first, taken⟩, holds⟩
    · rintro ⟨part, rest, split, taken, holds⟩
      cases part with
      | nil => exact .inl (split ▸ holds)
      | cons d part =>
        rw [List.cons_append, List.cons.injEq] at split
        obtain ⟨rfl, rfl⟩ := split
        obtain ⟨first, taken⟩ := List.forall_mem_cons.mp taken
        exact .inr ⟨first, part, rest, rfl, taken, holds⟩

theorem takeSome_bne_iff {c : Char} {fits : List Char → Bool} : takeSome (· != c) fits text = true ↔
    ∃ part rest, text = part ++ rest ∧ c ∉ part ∧ fits rest = true := by
  have absent (part : List Char) : (∀ d ∈ part, (d != c) = true) ↔ c ∉ part := by
    simp only [bne_iff_ne, ne_eq]
    exact ⟨fun differs member => differs c member rfl, fun absent d member same => absent (same ▸ member)⟩
  simp only [takeSome_iff, absent]

theorem fits_char_iff {d : Char} {fits : List Char → Bool} :
    Piece.fits fits (.char d) text = true ↔ ∃ rest, text = d :: rest ∧ fits rest = true := by
  cases text with
  | nil => simp [Piece.fits]
  | cons c text =>
    rw [Piece.fits, Bool.and_eq_true, beq_iff_eq]
    constructor
    · rintro ⟨rfl, holds⟩
      exact ⟨text, rfl, holds⟩
    · rintro ⟨_, ⟨⟩, holds⟩
      exact ⟨rfl, holds⟩

theorem takeDirectories_eq (fits : List Char → Bool) :
    takeDirectories fits = takeSome (· != '\n') (Piece.fits fits (.char '/')) := by
  funext text
  induction text with
  | nil => rfl
  | cons c text ih => rw [takeDirectories, takeSome, ih, Piece.fits]

theorem takeDirectories_iff {fits : List Char → Bool} : takeDirectories fits text = true ↔
    ∃ part rest, text = part ++ '/' :: rest ∧ '\n' ∉ part ∧ fits rest = true := by
  rw [takeDirectories_eq, takeSome_bne_iff]
  constructor
  · rintro ⟨part, slashed, rfl, inLine, holds⟩
    obtain ⟨rest, rfl, holds⟩ := fits_char_iff.mp holds
    exact ⟨part, rest, rfl, inLine, holds⟩
  · rintro ⟨part, rest, rfl, inLine, holds⟩
    exact ⟨part, '/' :: rest, rfl, inLine, fits_char_iff.mpr ⟨rest, rfl, holds⟩⟩

theorem Piece.fits_iff {piece : Piece} {further : List Char → Bool} : piece.fits further text = true ↔
    ∃ part rest, text = part ++ rest ∧ piece.Takes part ∧ further rest = true := by
  cases piece with
  | directories =>
    rw [Piece.fits, Bool.or_eq_true, takeDirectories_iff]
    constructor
    · rintro (here | ⟨part, rest, rfl, inLine, holds⟩)
      · exact ⟨[], text, rfl, .nothing, here⟩
      · exact ⟨part ++ ['/'], rest, by simp, .directories inLine, holds⟩
    · rintro ⟨part, rest, rfl, takes, holds⟩
      cases takes with
      | nothing => exact .inl holds
      | directories inLine => exact .inr ⟨_, rest, by simp, inLine, holds⟩
  | deep =>
    have takes (part : List Char) : Piece.deep.Takes part ↔ '\n' ∉ part := ⟨fun (.deep inLine) => inLine, .deep⟩
    simp only [Piece.fits, takeSome_bne_iff, takes]
  | component =>
    have takes (part : List Char) : Piece.component.Takes part ↔ '/' ∉ part :=
      ⟨fun (.component inComponent) => inComponent, .component⟩
    simp only [Piece.fits, takeSome_bne_iff, takes]
  | one =>
    constructor
    · intro fits
      cases text with
      | nil => cases fits
      | cons c rest =>
        rw [Piece.fits, Bool.and_eq_true, bne_iff_ne] at fits
        exact ⟨[c], rest, rfl, .one fits.1, fits.2⟩
    · rintro ⟨_, rest, rfl, takes, holds⟩
      cases takes with
      | one inComponent =>
        rw [List.singleton_append, Piece.fits, Bool.and_eq_true, bne_iff_ne]
        exact ⟨inComponent, holds⟩
  | char d =>
    rw [fits_char_iff]
    constructor
    · rintro ⟨rest, rfl, holds⟩
      exact ⟨[d], rest, rfl, .char d, holds⟩
    · rintro ⟨_, rest, rfl, ⟨⟩, holds⟩
      exact ⟨rest, rfl, holds⟩

theorem fits_iff {tokens : List Piece} :
    fits tokens text = true ↔ ∃ parts, List.Forall₂ Piece.Takes tokens parts ∧ text = parts.flatten := by
  induction tokens generalizing text with
  | nil =>
    rw [fits, List.isEmpty_iff]
    constructor
    · exact fun empty => ⟨[], .nil, empty⟩
    · rintro ⟨_, ⟨⟩, rfl⟩
      rfl
  | cons piece tokens ih =>
    rw [fits, Piece.fits_iff]
    constructor
    · rintro ⟨part, rest, rfl, takes, holds⟩
      obtain ⟨parts, taken, rfl⟩ := ih.mp holds
      exact ⟨part :: parts, .cons takes taken, rfl⟩
    · rintro ⟨_, takes, rfl⟩
      cases takes with
      | cons takes taken => exact ⟨_, _, List.flatten_cons, takes, ih.mpr ⟨_, taken, rfl⟩⟩

end Taking

def Piece.tokens : Piece → List Token
  | .directories => [['('], ['?'], [':'], ['.'], ['*'], ['/'], [')'], ['?']]
  | .deep => [['.'], ['*']]
  | .component => [['['], ['^'], ['/'], [']'], ['*']]
  | .one => [['['], ['^'], ['/'], [']']]
  | .char c => [literal c]

def Piece.pattern : Piece → List Char
  | .directories => "(?:.*/)?".toList
  | .deep => ".*".toList
  | .component => "[^/]*".toList
  | .one => "[^/]".toList
  | .char c => literal c

def expression (glob : List Char) : String :=
  String.ofList ((pieces glob).flatMap Piece.pattern ++ "\\Z".toList)

def inLine : Expr := .repeated .greedy 0 none (.any false)

def notSlash : Expr := .set true [.char '/'.toNat] {}

def Piece.expr : Piece → Expr
  | .directories => .repeated .greedy 0 (some 1) (.seq inLine (charExpr '/'.toNat {}))
  | .deep => inLine
  | .component => .repeated .greedy 0 none notSlash
  | .one => notSlash
  | .char c => charExpr c.toNat {}

def Piece.repeatable : Piece → Repeatable
  | .directories | .deep | .component => .repetition
  | .one | .char _ => .plain

section Parsing
variable {bound : Nat} {tokens : List Token}

theorem Piece.tokens_flatten (piece : Piece) : piece.tokens.flatten = piece.pattern := by
  cases piece with
  | char c => exact List.flatten_singleton
  | _ => rfl

theorem Piece.isToken_of_mem {piece : Piece} {token : Token} (member : token ∈ piece.tokens) : IsToken token := by
  cases piece with
  | char c => exact List.mem_singleton.mp member ▸ isToken_literal c
  | _ =>
    simp only [Piece.tokens, List.mem_cons, List.not_mem_nil, or_false] at member
    rcases member with rfl | rfl | rfl | rfl | rfl | rfl | rfl | rfl
    all_goals exact .char (by decide)

def Piece.steps : Piece → Nat
  | .directories => 3
  | .deep | .component => 2
  | .one | .char _ => 1

def stepsOf : List Piece → Nat
  | [] => 0
  | piece :: glob => stepsOf glob + piece.steps

theorem readSequence_piece (length index : Nat) (first : Bool) (done : List (Expr × Repeatable)) (piece : Piece)
    (valid : ∀ token ∈ tokens, IsToken token) (unmarked : IsUnmarked tokens) (enough : 5 ≤ bound) :
    ∃ index', readSequence none first nestingLimit done (bound + piece.steps)
        (inFront length index (piece.tokens ++ tokens)) =
      readSequence none first nestingLimit ((piece.expr, piece.repeatable) :: done) bound
        (inFront length index' tokens) := by
  cases piece with
  | directories =>
    obtain ⟨more, rfl⟩ := Nat.exists_eq_add_of_le' enough
    have slash : literal '/' = ['/'] := by decide
    have marked : ∀ token ∈ ['?'] :: tokens, IsToken token := List.forall_mem_cons.mpr ⟨.char (by decide), valid⟩
    have closed : ∀ token ∈ [')'] :: ['?'] :: tokens, IsToken token :=
      List.forall_mem_cons.mpr ⟨.char (by decide), marked⟩
    have slashed : ∀ token ∈ ['/'] :: [')'] :: ['?'] :: tokens, IsToken token :=
      List.forall_mem_cons.mpr ⟨.char (by decide), closed⟩
    have starred : ∀ token ∈ ['*'] :: ['/'] :: [')'] :: ['?'] :: tokens, IsToken token :=
      List.forall_mem_cons.mpr ⟨.char (by decide), slashed⟩
    have body : readAlternatives (some {}) false (nestingLimit - 2) (more + 5 + 1) (inFront length (index + 3)
        (['.'] :: ['*'] :: ['/'] :: [')'] :: ['?'] :: tokens)) =
          .ok (.seq inLine (charExpr '/'.toNat {}), inFront length (index + 6) ([')'] :: ['?'] :: tokens)) := by
      apply readAlternatives_single _ (by simp)
      rw [readSequence_any starred rfl, readSequence_star slashed ⟨by simp, by simp⟩]
      exact (slash ▸ readSequence_literal closed rfl '/').trans readSequence_closed
    have inner : ∀ token ∈ [['.'], ['*'], ['/']], IsToken token := by
      intro token member
      simp only [List.mem_cons, List.not_mem_nil, or_false] at member
      rcases member with rfl | rfl | rfl
      all_goals exact .char (by decide)
    exact ⟨_, (readSequence_group marked rfl inner (by decide) body).trans (readSequence_optional valid unmarked)⟩
  | deep =>
    have further : ∀ token ∈ ['*'] :: tokens, IsToken token := List.forall_mem_cons.mpr ⟨.char (by decide), valid⟩
    exact ⟨_, (readSequence_any further rfl).trans (readSequence_star valid unmarked)⟩
  | component =>
    have further : ∀ token ∈ ['*'] :: tokens, IsToken token := List.forall_mem_cons.mpr ⟨.char (by decide), valid⟩
    exact ⟨_, (readSequence_exclusion further rfl).trans (readSequence_star valid unmarked)⟩
  | one => exact ⟨_, readSequence_exclusion valid rfl⟩
  | char c => exact ⟨_, readSequence_literal valid rfl c⟩

theorem isUnmarked_tokens (piece : Piece) (tokens : List Token) : IsUnmarked (piece.tokens ++ tokens) := by
  cases piece with
  | char c =>
    rw [Piece.tokens, literal]
    split
    · exact ⟨by simp, by simp⟩
    · next plain =>
      constructor
      · rintro same
        cases same
        exact plain (by decide)
      · rintro same
        cases same
        exact plain (by decide)
  | _ => exact ⟨by simp [Piece.tokens], by simp [Piece.tokens]⟩

def allTokens (glob : List Piece) : List Token := glob.flatMap Piece.tokens ++ [['\\', 'Z']]

theorem isToken_of_mem_allTokens {glob : List Piece} : ∀ token ∈ allTokens glob, IsToken token := by
  intro token member
  rcases List.mem_append.mp member with inside | last
  · obtain ⟨piece, _, inside⟩ := List.mem_flatMap.mp inside
    exact Piece.isToken_of_mem inside
  · exact List.mem_singleton.mp last ▸ .escape 'Z'

theorem allTokens_cons (piece : Piece) (glob : List Piece) :
    allTokens (piece :: glob) = piece.tokens ++ allTokens glob := by
  rw [allTokens, List.flatMap_cons, List.append_assoc, allTokens]

theorem isUnmarked_allTokens (glob : List Piece) : IsUnmarked (allTokens glob) := by
  cases glob with
  | nil => exact ⟨by simp [allTokens], by simp [allTokens]⟩
  | cons piece glob => exact allTokens_cons piece glob ▸ isUnmarked_tokens piece _

def readBack (glob : List Piece) (done : List (Expr × Repeatable)) : List (Expr × Repeatable) :=
  glob.foldl (fun done piece => (piece.expr, piece.repeatable) :: done) done

theorem readSequence_pieces (length index : Nat) (first : Bool) (done : List (Expr × Repeatable)) (glob : List Piece)
    (enough : 5 ≤ bound) :
    ∃ index', readSequence none first nestingLimit done (bound + stepsOf glob)
      (inFront length index (allTokens glob)) =
        readSequence none first nestingLimit (readBack glob done) bound (inFront length index' (allTokens [])) := by
  induction glob generalizing index done with
  | nil => exact ⟨index, rfl⟩
  | cons piece glob ih =>
    have ample : 5 ≤ bound + stepsOf glob := Nat.le_add_right_of_le enough
    obtain ⟨here, read⟩ := readSequence_piece length index first done piece isToken_of_mem_allTokens
      (isUnmarked_allTokens glob) ample
    obtain ⟨last, later⟩ := ih here ((piece.expr, piece.repeatable) :: done)
    refine ⟨last, ?_⟩
    rw [stepsOf, ← Nat.add_assoc, allTokens_cons, read, later]
    rfl

theorem Piece.steps_le (piece : Piece) : piece.steps ≤ piece.pattern.length := by
  rw [← tokens_flatten]
  cases piece with
  | char c =>
    rw [Piece.tokens, List.flatten_singleton]
    exact List.length_pos_iff.mpr ((isToken_literal c).ne_nil)
  | _ => decide

theorem stepsOf_le (glob : List Piece) : stepsOf glob ≤ (glob.flatMap Piece.pattern).length := by
  induction glob with
  | nil => exact Nat.le_refl 0
  | cons piece glob ih =>
    rw [stepsOf, List.flatMap_cons, List.length_append, Nat.add_comm]
    exact Nat.add_le_add piece.steps_le ih

theorem allTokens_flatten (glob : List Piece) :
    (allTokens glob).flatten = glob.flatMap Piece.pattern ++ "\\Z".toList := by
  induction glob with
  | nil => rfl
  | cons piece glob ih =>
    rw [allTokens_cons, List.flatten_append, ih, piece.tokens_flatten, List.flatMap_cons, List.append_assoc]

theorem readBack_exprs (glob : List Piece) (done : List (Expr × Repeatable)) :
    (readBack glob done).reverse.map (·.1) = done.reverse.map (·.1) ++ glob.map Piece.expr := by
  induction glob generalizing done with
  | nil => simp [readBack]
  | cons piece glob ih =>
    rw [readBack, List.foldl_cons, ← readBack, ih]
    simp

theorem widthFlaw?_sequence {groups : Nat → Width} {row : List Expr} (sound : ∀ e ∈ row, e.widthFlaw? groups = none) :
    (Expr.sequence row).widthFlaw? groups = none := by
  induction row with
  | nil => rfl
  | cons e rest ih =>
    obtain ⟨here, later⟩ := List.forall_mem_cons.mp sound
    cases rest with
    | nil => exact here
    | cons f others =>
      rw [Expr.sequence, Expr.widthFlaw?, here, ih later]
      rfl

def rowOf (glob : List Piece) : List Expr := glob.map Piece.expr ++ [.place .textEnding]

theorem widthFlaw?_rowOf (glob : List Piece) (groups : Nat → Width) :
    (Expr.sequence (rowOf glob)).widthFlaw? groups = none := by
  apply widthFlaw?_sequence
  intro e member
  rcases List.mem_append.mp member with inside | last
  · obtain ⟨piece, _, rfl⟩ := List.mem_map.mp inside
    cases piece <;> rfl
  · rw [List.mem_singleton.mp last]
    rfl

theorem readAlternatives_pieces (length : Nat) (glob : List Piece) (enough : stepsOf glob + 6 ≤ bound) :
    ∃ index, readAlternatives none true nestingLimit bound (inFront length 0 (allTokens glob)) =
      .ok (.sequence (rowOf glob), inFront length index []) := by
  obtain ⟨spare, rfl⟩ : ∃ spare, bound = spare + 5 + stepsOf glob + 1 := ⟨bound - (stepsOf glob + 6), by omega⟩
  obtain ⟨index, read⟩ := readSequence_pieces length 0 true [] glob (Nat.le_add_left 5 spare)
  have ended : readSequence none true nestingLimit (readBack glob []) (spare + 5)
      (inFront length index (allTokens [])) = .ok (.sequence (rowOf glob), inFront length (index + 2) []) := by
    refine (readSequence_textEnding rfl).trans ?_
    rw [readBack_exprs]
    rfl
  exact ⟨index + 2, readAlternatives_single (read.trans ended) (by simp)⟩

theorem parse_expression (glob : List Char) :
    Pattern.parse (expression glob).toList {} = .ok (.sequence (rowOf (pieces glob))) := by
  have text : (expression glob).toList = (allTokens (pieces glob)).flatten := by
    rw [expression, String.toList_ofList, allTokens_flatten]
  have enough : stepsOf (pieces glob) + 6 ≤ 3 * (allTokens (pieces glob)).flatten.length + 8 := by
    have steps := stepsOf_le (pieces glob)
    rw [allTokens_flatten, List.length_append]
    omega
  obtain ⟨index, read⟩ := readAlternatives_pieces (allTokens (pieces glob)).flatten.length (pieces glob) enough
  rw [text, Pattern.parse, shift_inFront isToken_of_mem_allTokens none]
  -- What follows the reading looks at the end of the text only, and at the widths.
  generalize 3 * (allTokens (pieces glob)).flatten.length + 8 = bound at read ⊢
  change (readAlternatives none true nestingLimit bound (inFront _ 0 (allTokens (pieces glob))) >>= _) = _
  rw [read]
  dsimp only [bind, Except.bind, inFront]
  rw [widthFlaw?_rowOf]
  rfl

end Parsing

/-- A continuation succeeds exactly at the spots before a text that fits. -/
def Follows (k : Spot → Option Spot) (fits : List Char → Bool) : Prop := ∀ s, (k s).isSome = fits s.after

def TakesOne (e : Expr) (among : Char → Bool) : Prop :=
  ∀ k s, e.step k s = match s.advance? with
    | some (c, t) => if among c then k t else none
    | none => none

section Running
variable {e : Expr} {among : Char → Bool} {k : Spot → Option Spot} {fits : List Char → Bool} {c : Char}
  {before rest : List Char} {position : Nat} {groups : List (Nat × List Char)}

theorem TakesOne.isSome_nil (one : TakesOne e among) : (e.step k ⟨before, [], position, groups⟩).isSome = false := by
  rw [one]
  rfl

theorem TakesOne.isSome_cons (one : TakesOne e among) : (e.step k ⟨before, c :: rest, position, groups⟩).isSome =
    (among c && (k ⟨c :: before, rest, position + 1, groups⟩).isSome) := by
  rw [one]
  dsimp only [Spot.advance?]
  cases among c <;> rfl

theorem takesOne_any : TakesOne (.any false) (· != '\n') := fun _ _ => rfl

theorem takesOne_set {negated : Bool} {items : List SetItem} :
    TakesOne (.set negated items {}) (setContains negated items {}) := fun _ _ => rfl

theorem toNat_beq (c d : Char) : (c.toNat == d.toNat) = (c == d) := by
  rw [Bool.eq_iff_iff, beq_iff_eq, beq_iff_eq]
  exact ⟨Char.toNat_inj.mp, congrArg _⟩

theorem setContains_char (negated : Bool) (c d : Char) :
    setContains negated [.char d.toNat] {} c = ((c == d) != negated) := by
  simp [setContains, SetItem.contains, toNat_beq]

theorem takesOne_notSlash : TakesOne notSlash (· != '/') := by
  have same : setContains true [.char '/'.toNat] {} = (· != '/') := by
    funext c
    rw [setContains_char, Bool.bne_true]
    rfl
  exact same ▸ takesOne_set

theorem takesOne_char (d : Char) : TakesOne (charExpr d.toNat {}) (· == d) := by
  have same : setContains false [.char d.toNat] {} = (· == d) := by
    funext c
    rw [setContains_char, Bool.bne_false]
  exact same ▸ takesOne_set

theorem repeatGreedy_isSome (one : TakesOne e among) (follows : Follows k fits) {bound : Nat} {last : Option Nat}
    {s : Spot} (enough : s.after.length < bound) (moved : last ≠ some s.position) :
    (repeatGreedy e.step k bound 0 none last s).isSome = takeSome among fits s.after := by
  induction bound generalizing last s with
  | zero => exact absurd enough (Nat.not_lt_zero _)
  | succ bound ih =>
    have going : ((none : Option Nat) == some 0 || last == some s.position) = false := by
      rw [beq_eq_false_iff_ne.mpr moved]
      rfl
    have split : (repeatGreedy e.step k (bound + 1) 0 none last s).isSome =
        ((e.step (repeatGreedy e.step k bound 0 none (some s.position)) s).isSome || (k s).isSome) := by
      rw [repeatGreedy]
      simp only [going, Bool.false_eq_true, if_false, Option.map_none]
      cases e.step (repeatGreedy e.step k bound 0 none (some s.position)) s <;> simp
    obtain ⟨before, after, position, groups⟩ := s
    rw [split, follows]
    cases after with
    | nil => rw [one.isSome_nil, takeSome, Bool.false_or]
    | cons c rest =>
      have later := @ih (some position) ⟨c :: before, rest, position + 1, groups⟩ (Nat.lt_of_succ_lt_succ enough)
        (by simp)
      rw [one.isSome_cons, later, takeSome, Bool.or_comm]

theorem follows_repeated (one : TakesOne e among) (follows : Follows k fits) :
    Follows ((Expr.repeated .greedy 0 none e).step k) (takeSome among fits) := by
  intro s
  rw [Expr.step]
  exact repeatGreedy_isSome one follows (by rw [stepBound]; omega) (by simp)

theorem follows_char (follows : Follows k fits) (d : Char) :
    Follows ((charExpr d.toNat {}).step k) (Piece.fits fits (.char d)) := by
  rintro ⟨before, after, position, groups⟩
  cases after with
  | nil => exact (takesOne_char d).isSome_nil
  | cons c rest => rw [(takesOne_char d).isSome_cons, follows, Piece.fits]

theorem Piece.follows (follows : Follows k fits) (piece : Piece) :
    Follows (piece.expr.step k) (piece.fits fits) := by
  cases piece with
  | directories =>
    intro s
    have line := follows_repeated takesOne_any (follows_char follows '/') s
    rw [Bool.eq_iff_iff, Piece.expr, step_optional_isSome_iff, Expr.step, inLine, line, follows, Piece.fits,
      takeDirectories_eq, Bool.or_eq_true]
    exact or_comm
  | deep => exact follows_repeated takesOne_any follows
  | component => exact follows_repeated takesOne_notSlash follows
  | one =>
    rintro ⟨before, after, position, groups⟩
    cases after with
    | nil => exact takesOne_notSlash.isSome_nil
    | cons c rest => rw [Piece.expr, takesOne_notSlash.isSome_cons, follows, Piece.fits]
  | char d => exact follows_char follows d

theorem sequence_step (row : List Expr) (k : Spot → Option Spot) : (Expr.sequence row).step k = run row k := by
  induction row with
  | nil => rfl
  | cons e rest ih =>
    cases rest with
    | nil => rfl
    | cons f others =>
      change e.step ((Expr.sequence (f :: others)).step k) = _
      rw [ih]
      rfl

theorem follows_run (tokens : List Piece) :
    Follows (run (tokens.map Piece.expr ++ [.place .textEnding]) some) (Glob.fits tokens) := by
  induction tokens with
  | nil =>
    intro s
    change (if s.after.isEmpty then some s else none).isSome = s.after.isEmpty
    cases s.after.isEmpty <;> rfl
  | cons piece tokens ih => exact Piece.follows ih piece

end Running

/-- A glob reads in one way only as pieces, it covers the paths that can be cut into parts of which each piece takes
one, and its regular expression is valid and matches from the start of a path exactly when the glob covers it. -/
theorem covers_exact (glob path : List Char) :
    (∃! tokens, ReadsAs glob tokens) ∧
    (covers glob path = true ↔
      ∃ tokens parts, ReadsAs glob tokens ∧ List.Forall₂ Piece.Takes tokens parts ∧ path = parts.flatten) ∧
    ∃ pattern, Pattern.compile (expression glob) = .ok pattern ∧
      (pattern.expr.matchAt? ⟨[], path, 0, []⟩).isSome = covers glob path := by
  refine ⟨⟨pieces glob, readsAs_pieces glob, fun tokens reads => reads.eq⟩, ?_, ?_⟩
  · rw [covers, fits_iff]
    constructor
    · rintro ⟨parts, taken, cut⟩
      exact ⟨pieces glob, parts, readsAs_pieces glob, taken, cut⟩
    · rintro ⟨tokens, parts, reads, taken, cut⟩
      exact ⟨parts, reads.eq ▸ taken, cut⟩
  · refine ⟨⟨expression glob, .sequence (rowOf (pieces glob))⟩, ?_, ?_⟩
    · rw [Pattern.compile, parse_expression]
      rfl
    · rw [Expr.matchAt?, Option.isSome_map, sequence_step]
      exact follows_run (pieces glob) ⟨[], path, 0, []⟩

end EnvAudit.Glob
