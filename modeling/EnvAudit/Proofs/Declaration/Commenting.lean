import EnvAudit.Proofs.Declaration.Quoting
import EnvAudit.Proofs.Text.Searching

/-! Comments behind values. Comments are for values without quotes: a comment leaves the value of its line as it is if
neither it nor the whole text up to the end of the comment stands between quotes. Quotes count only where they enclose
all that stands behind the equals sign, so that a quoted value keeps them once a comment follows. -/
namespace EnvAudit.Declaration

def commented (text comment : List Char) : List Char := text ++ " # ".toList ++ comment

def IsQuoted (text : List Char) : Prop :=
  ∃ (quote : Quote) (inner : List Char), text = quote.mark :: (inner ++ [quote.mark])

/-- Whether neither a text nor the text with a comment behind it stands between quotes. -/
structure StandsApart (text comment : List Char) : Prop where
  bare : ¬ IsQuoted (Text.trim text)
  ends : ¬ IsQuoted (Text.trim (commented text comment))

section Quotes
variable {text : List Char} {c : Char}

/-- What the text between quotes stands for. -/
def Quote.read : Quote → List Char → List Char
  | .single, inner => inner
  | .double, inner => unescape inner

theorem isQuoted_of_enclosingQuote? {mark : Char} (enclosed : enclosingQuote? text = some mark) : IsQuoted text := by
  unfold enclosingQuote? at enclosed
  split at enclosed
  · next first last head ending =>
    split at enclosed
    · next two =>
      simp only [Bool.and_eq_true, Bool.or_eq_true, decide_eq_true_eq, beq_iff_eq] at two
      obtain ⟨⟨long, same⟩, kind⟩ := two
      obtain ⟨rest, rfl⟩ := List.head?_eq_some_iff.mp head
      rcases List.eq_nil_or_concat rest with rfl | ⟨inner, other, rfl⟩
      · simp at long
      · rw [List.concat_eq_append, ← List.cons_append, List.getLast?_concat] at ending
        cases ending
        subst same
        rw [List.concat_eq_append]
        rcases kind with rfl | rfl
        · exact ⟨.single, inner, rfl⟩
        · exact ⟨.double, inner, rfl⟩
    · cases enclosed
  · cases enclosed

theorem enclosingQuote?_eq_none (bare : ¬ IsQuoted text) : enclosingQuote? text = none := by
  cases enclosed : enclosingQuote? text with
  | none => rfl
  | some mark => exact absurd (isQuoted_of_enclosingQuote? enclosed) bare

theorem valueOf_quoted {quote : Quote} {inner : List Char}
    (written : Text.trim text = quote.mark :: (inner ++ [quote.mark])) : valueOf text = quote.read inner := by
  have between : (((quote.mark :: (inner ++ [quote.mark])).drop 1).dropLast) = inner := by simp
  unfold valueOf
  rw [written]
  dsimp only
  rw [quote.enclosingQuote?_between, between]
  cases quote <;> rfl

theorem valueOf_bare (bare : ¬ IsQuoted (Text.trim text)) : valueOf text = withoutComment (Text.trim text) := by
  unfold valueOf
  dsimp only
  rw [enclosingQuote?_eq_none bare]

theorem head_of_isQuoted {rest : List Char} (quoted : IsQuoted (c :: rest)) : c = '\'' ∨ c = '"' := by
  obtain ⟨quote, inner, written⟩ := quoted
  have first : c = quote.mark := (List.cons.inj written).1
  cases quote with
  | single => exact .inl first
  | double => exact .inr first

end Quotes

section Measures
variable {text : List Char}

theorem unescape_measures (text : List Char) :
    (unescape text).count '#' = text.count '#' ∧ (unescape text).length ≤ text.length := by
  induction text using unescape.induct with
  | case1 => simp [unescape]
  | case2 => simp [unescape]
  | case3 c rest d stands ih =>
    have other : d ≠ '#' ∧ c ≠ '#' := by
      unfold escaped? at stands
      split at stands <;> cases stands <;> decide
    obtain ⟨count, length⟩ := ih
    rw [unescape_pair stands]
    refine ⟨by simp [count, other.1, other.2], ?_⟩
    simp only [List.length_cons]
    omega
  | case4 c rest none ih =>
    obtain ⟨count, length⟩ := ih
    rw [unescape, none]
    exact ⟨by simp [count], by simpa using length⟩
  | case5 c rest single pair ih =>
    obtain ⟨count, length⟩ := ih
    have plain : c ≠ '\\' := by
      intro same
      cases rest with
      | nil => exact single same rfl
      | cons d others => exact pair d others same rfl
    rw [unescape_cons plain]
    exact ⟨by simp [List.count_cons, count], by simpa using length⟩

theorem Quote.count_read (quote : Quote) (inner : List Char) : (quote.read inner).count '#' = inner.count '#' := by
  cases quote with
  | single => rfl
  | double => exact (unescape_measures inner).1

theorem Quote.length_read_le (quote : Quote) (inner : List Char) : (quote.read inner).length ≤ inner.length := by
  cases quote with
  | single => exact Nat.le_refl _
  | double => exact (unescape_measures inner).2

theorem Quote.count_between (quote : Quote) (inner : List Char) :
    (quote.mark :: (inner ++ [quote.mark])).count '#' = inner.count '#' := by
  cases quote <;> simp [mark]

theorem withoutComment_isInfix (text : List Char) : withoutComment text <:+: text := by
  rw [withoutComment]
  split
  · next length _ => exact (Text.trim_isInfix _).trans (List.take_prefix length text).isInfix
  · exact List.infix_refl text

theorem count_valueOf_le (text : List Char) : (valueOf text).count '#' ≤ (Text.trim text).count '#' := by
  by_cases quoted : IsQuoted (Text.trim text)
  · obtain ⟨quote, inner, written⟩ := quoted
    rw [valueOf_quoted written, quote.count_read, written, quote.count_between]
  · rw [valueOf_bare quoted]
    exact (withoutComment_isInfix _).sublist.count_le '#'

end Measures

section Trimming
variable {text gap : List Char}

theorem trim_commented (filled : Text.trim text ≠ []) (comment : List Char) :
    ∃ gap, (∀ c ∈ gap, Text.isBlank c = true) ∧ Text.trim (commented text comment) =
      Text.trim text ++ (gap ++ (" #".toList ++ Text.trimEnd (' ' :: comment))) := by
  obtain ⟨lead, trail, before, after, parts⟩ := Text.trim_parts text
  refine ⟨trail, after, ?_⟩
  obtain ⟨c, rest, begins⟩ := List.exists_cons_of_ne_nil filled
  have solid : Text.isBlank c = false := Text.isBlank_head_trim begins
  rw [begins] at parts ⊢
  have written : commented text comment = lead ++ c :: (rest ++ trail ++ [' '] ++ '#' :: ' ' :: comment) := by
    rw [commented, parts]
    simp
  rw [written, Text.trim_append before, Text.trim_cons solid, Text.trimEnd_append_cons (by decide)]
  simp

/-- A comment is cut off with the blanks before it, and what was cut off without it still is. -/
theorem withoutComment_marked (trimmed : Text.trim text = text) (blank : ∀ c ∈ gap, Text.isBlank c = true)
    (rest : List Char) : withoutComment (text ++ (gap ++ (" #".toList ++ rest))) = withoutComment text := by
  unfold withoutComment
  cases found : Text.find? " #".toList text with
  | some length =>
    obtain ⟨before, after, split, reached⟩ := Text.eq_append_of_find? found
    have inside : length ≤ text.length := by
      rw [split, ← reached]
      simp
    rw [Text.find?_append_of_some found]
    dsimp only
    rw [List.take_append_of_le_length inside]
  | none =>
    have unmarked : '#' ∉ gap := by
      intro member
      cases blank '#' member
    have absent : Text.find? ([' '] ++ ['#']) (text ++ gap) = none := by
      refine Text.find?_eq_none_iff.mpr fun inside => ?_
      exact Text.find?_eq_none_iff.mp found (Text.infix_of_infix_append inside unmarked)
    have first : Text.find? " #".toList (text ++ gap ++ (" #".toList ++ rest)) = some (text ++ gap).length :=
      Text.find?_of_first absent (by decide) rest
    rw [← List.append_assoc, first]
    dsimp only
    rw [List.take_left, Text.trim_append_right blank, trimmed]

theorem withoutComment_cons {c : Char} (solid : Text.isBlank c = false) (rest : List Char) :
    ∃ others, withoutComment (c :: rest) = c :: others := by
  unfold withoutComment
  split
  · next length found =>
    cases length with
    | zero =>
      obtain ⟨before, after, split, empty⟩ := Text.eq_append_of_find? found
      rw [List.eq_nil_of_length_eq_zero empty] at split
      cases split
      cases solid
    | succ length =>
      rw [List.take_succ_cons, Text.trim_cons solid]
      exact ⟨_, rfl⟩
  · exact ⟨rest, rfl⟩

theorem withoutComment_ne_read (quote : Quote) (inner : List Char) :
    withoutComment (quote.mark :: (inner ++ [quote.mark])) ≠ quote.read inner := by
  intro same
  have count := congrArg (·.count '#') same
  have length := congrArg (·.length) same
  simp only [quote.count_read] at count
  unfold withoutComment at count length
  split at count
  · next distance found =>
    -- A number sign between the quotes is lost with what is cut off.
    obtain ⟨before, after, split, reached⟩ := Text.eq_append_of_find? found
    have between := quote.count_between inner
    rw [split] at between
    have front : (quote.mark :: (inner ++ [quote.mark])).take distance = before := by
      rw [split, List.append_assoc, ← reached, List.take_left]
    have fewer := (Text.trim_isInfix before).sublist.count_le '#'
    rw [front] at count
    simp at between
    omega
  · next absent =>
    have shorter := quote.length_read_le inner
    rw [absent] at length
    simp at length
    omega

end Trimming

section Comments
variable {name text comment value : List Char}

theorem valueOf_commented (filled : Text.trim text ≠ []) (ends : ¬ IsQuoted (Text.trim (commented text comment))) :
    valueOf (commented text comment) = withoutComment (Text.trim text) := by
  obtain ⟨gap, blank, marked⟩ := trim_commented filled comment
  rw [valueOf_bare ends, marked, withoutComment_marked (Text.trim_trim text) blank]

theorem valueOf_commented_iff (filled : Text.trim text ≠ []) :
    valueOf (commented text comment) = valueOf text ↔ StandsApart text comment := by
  by_cases ends : IsQuoted (Text.trim (commented text comment))
  · refine iff_of_false ?_ fun apart => apart.ends ends
    intro same
    obtain ⟨gap, _, marked⟩ := trim_commented filled comment
    obtain ⟨quote, inner, written⟩ := ends
    -- The comment is read as part of the value, and with it one more number sign.
    have more : (valueOf (commented text comment)).count '#' = (Text.trim (commented text comment)).count '#' := by
      rw [valueOf_quoted written, quote.count_read, written, quote.count_between]
    have fewer := count_valueOf_le text
    rw [← same, more, marked] at fewer
    simp only [List.count_append] at fewer
    have sign : (" #".toList).count '#' = 1 := by decide
    omega
  · rw [valueOf_commented filled ends]
    by_cases bare : IsQuoted (Text.trim text)
    · refine iff_of_false ?_ fun apart => apart.bare bare
      obtain ⟨quote, inner, written⟩ := bare
      rw [valueOf_quoted written, written]
      exact withoutComment_ne_read quote inner
    · exact iff_of_true (valueOf_bare bare).symm ⟨bare, ends⟩

theorem not_isBracketed_of_isQuoted (quoted : IsQuoted text) : Shape.isBracketed (withoutComment text) = false := by
  obtain ⟨quote, inner, rfl⟩ := quoted
  obtain ⟨others, kept⟩ := withoutComment_cons quote.isBlank_mark (inner ++ [quote.mark])
  rw [kept]
  cases quote <;> simp [Shape.isBracketed, Quote.mark]

theorem standsApart_of_head {c : Char} (begins : (Text.trim text).head? = some c) (plain : c ≠ '\'' ∧ c ≠ '"') :
    StandsApart text comment := by
  obtain ⟨rest, written⟩ := List.head?_eq_some_iff.mp begins
  have filled : Text.trim text ≠ [] := by
    rw [written]
    exact List.cons_ne_nil c rest
  have bare (more : List Char) : ¬ IsQuoted (c :: more) := by
    intro quoted
    rcases head_of_isQuoted quoted with single | double
    · exact plain.1 single
    · exact plain.2 double
  obtain ⟨gap, _, marked⟩ := trim_commented filled comment
  refine ⟨?_, ?_⟩
  · rw [written]
    exact bare rest
  · rw [marked, written]
    exact bare _

theorem reads_iff_of_readLine {line given : List Char} (single : '\n' ∉ line)
    (reads : readLine line = .assignment name given) :
    Reads line name value ↔ value = given ∧ (Shape.isBracketed given = true → ¬ Json.IsTooDeep given) := by
  constructor
  · intro read
    obtain ⟨declaration, parsed, _, valued⟩ := read ".env"
    rw [parse, Text.lines, Text.pieces_of_not_mem single] at parsed
    obtain ⟨rest, ended, added⟩ := Outcome.bind_eq_ok.mp parsed
    cases ended
    rw [addLine, reads] at added
    obtain ⟨made, assigned, same⟩ := Outcome.bind_eq_ok.mp added
    cases same
    obtain ⟨_, _, own⟩ := ofAssignment_isReadFrom reads assigned
    have told := reads.symm.trans own.reads
    injection told with _ given
    refine ⟨?_, ofAssignment_returns.mp ⟨_, assigned⟩⟩
    rw [given, valued, String.toList_ofList]
  · rintro ⟨rfl, judgeable⟩
    exact reads_of_readLine single reads judgeable

theorem reads_line_iff (valid : isName name = true) (single : '\n' ∉ text) :
    Reads (name ++ '=' :: text) name value ↔
      value = valueOf text ∧ (Shape.isBracketed (valueOf text) = true → ¬ Json.IsTooDeep (valueOf text)) := by
  have clear : ¬ ({} : Layout).Hides name := Layout.not_hides_plain name
  change Reads (({} : Layout).line name text) name value ↔ _
  exact reads_iff_of_readLine (Layout.not_mem_line valid single) (Layout.readLine_line valid clear text)

/-- Comments are for values without quotes. A comment behind a value that can be judged changes neither the name nor the
value of its line exactly if neither the value nor the whole text stands between quotes, so always behind a value that
does not begin with a quote. A quoted value keeps its quotes before a comment, and is cut off at a comment within. -/
theorem comment_ignored_iff (valid : isName name = true) (single : '\n' ∉ text ++ comment)
    (filled : Text.trim text ≠ [])
    (judgeable : Shape.isBracketed (valueOf text) = true → ¬ Json.IsTooDeep (valueOf text)) :
    ((∃ value, Reads (name ++ '=' :: text) name value ∧ Reads (name ++ '=' :: commented text comment) name value) ↔
      StandsApart text comment) ∧
    (∀ c, (Text.trim text).head? = some c → c ≠ '\'' → c ≠ '"' → StandsApart text comment) ∧
    (IsQuoted (Text.trim text) → ¬ IsQuoted (Text.trim (commented text comment)) →
      Reads (name ++ '=' :: commented text comment) name (withoutComment (Text.trim text))) := by
  simp only [List.mem_append, not_or] at single
  have longer : '\n' ∉ commented text comment := by simp [commented, single]
  refine ⟨?_, fun c begins single double => standsApart_of_head begins ⟨single, double⟩, ?_⟩
  · rw [← valueOf_commented_iff filled]
    constructor
    · rintro ⟨value, plain, marked⟩
      obtain ⟨given, _⟩ := (reads_line_iff valid single.1).mp plain
      obtain ⟨same, _⟩ := (reads_line_iff valid longer).mp marked
      exact same.symm.trans given
    · intro same
      refine ⟨valueOf text, (reads_line_iff valid single.1).mpr ⟨rfl, judgeable⟩, ?_⟩
      rw [← same] at judgeable
      exact (reads_line_iff valid longer).mpr ⟨same.symm, judgeable⟩
  · intro quoted ends
    have value := valueOf_commented filled ends
    refine (reads_line_iff valid longer).mpr ⟨value.symm, fun bracketed => ?_⟩
    rw [value, not_isBracketed_of_isQuoted quoted] at bracketed
    cases bracketed

theorem comment_ignored_trailing :
    ∃ value, Reads "INLINE= a#b c".toList "INLINE".toList value ∧
      Reads "INLINE= a#b c # \"trailing # comment\"".toList "INLINE".toList value := by
  have exactly := @comment_ignored_iff "INLINE".toList " a#b c".toList "\"trailing # comment\"".toList (by decide)
    (by decide) (by decide) (fun bracketed => absurd bracketed (by decide))
  exact exactly.1.mpr (exactly.2.1 'a' (by decide) (by decide) (by decide))

theorem valueOf_commented_blank (blank : ∀ c ∈ text, Text.isBlank c = true) (comment : List Char) :
    valueOf (commented text comment) = withoutComment ('#' :: Text.trimEnd (' ' :: comment)) := by
  have marked : Text.trim (commented text comment) = '#' :: Text.trimEnd (' ' :: comment) := by
    have solid : Text.trim ('#' :: ' ' :: comment) = '#' :: Text.trimEnd (' ' :: comment) := Text.trim_cons (by decide) _
    rw [commented, List.append_assoc, Text.trim_append blank, ← solid]
    exact Text.trim_append (List.forall_mem_singleton.mpr rfl) ('#' :: ' ' :: comment)
  rw [valueOf_bare, marked]
  rw [marked]
  intro quoted
  rcases head_of_isQuoted quoted with single | double
  · cases single
  · cases double

/-- A blank value leaves no blank in front of the number sign, and so the line gives the comment with its number sign. -/
theorem reads_commented_blank (valid : isName name = true) (single : '\n' ∉ text ++ comment)
    (blank : ∀ c ∈ text, Text.isBlank c = true) : Reads (name ++ '=' :: commented text comment) name
      (withoutComment ('#' :: Text.trimEnd (' ' :: comment))) := by
  have longer : '\n' ∉ commented text comment := by
    simp only [List.mem_append, not_or] at single
    simp [commented, single]
  refine (reads_line_iff valid longer).mpr ⟨(valueOf_commented_blank blank comment).symm, fun bracketed => ?_⟩
  obtain ⟨others, kept⟩ := withoutComment_cons (show Text.isBlank '#' = false by decide) (Text.trimEnd (' ' :: comment))
  rw [valueOf_commented_blank blank, kept] at bracketed
  cases bracketed

example : Reads "A= # c".toList "A".toList "# c".toList :=
  @reads_commented_blank "A".toList [] "c".toList (by decide) (by decide) (List.forall_mem_nil _)

/-- The quotes around a value do not enclose the comment behind it, and so they are kept. -/
theorem not_comment_ignored_quoted : isName "A".toList = true ∧ IsQuoted "\"abc\"".toList ∧ '\n' ∉ "c".toList ∧
    ¬ ∃ value, Reads "A=\"abc\"".toList "A".toList value ∧ Reads "A=\"abc\" # c".toList "A".toList value := by
  refine ⟨by decide, ⟨.double, "abc".toList, rfl⟩, by decide, ?_⟩
  rintro ⟨value, plain, marked⟩
  obtain ⟨given, _⟩ := (@reads_line_iff "A".toList "\"abc\"".toList value (by decide) (by decide)).mp plain
  obtain ⟨same, _⟩ := (@reads_line_iff "A".toList "\"abc\" # c".toList value (by decide) (by decide)).mp marked
  have alike : valueOf "\"abc\"".toList = valueOf "\"abc\" # c".toList := given.symm.trans same
  exact absurd alike (by decide)

end Comments

end EnvAudit.Declaration
