import EnvAudit.Proofs.Script.Laying
import EnvAudit.Proofs.Script.Quotation
import Mathlib.Data.List.Chain

/-! How quoted strings are read. Plain characters are taken as far as they go, and then one escape; so what is read of a
string are the fragments and the escapes of its elements. -/
namespace EnvAudit.Script
open EnvAudit.Script.Parser

/-- Whether an element may stand right before another one: a digit is not taken for one behind the null character. -/
def Element.Precedes {quote : Char} : Element quote → Element quote → Prop
  | null, plain c _ => Text.isArabic c = false
  | _, _ => True

section Taking

theorem advance_fst (n : Nat) (text : List Char) (place : Place) : (advance n text place).1 = text.drop n := by
  induction n generalizing text place with
  | zero => simp [advance]
  | succ n ih =>
    cases text with
    | nil => simp [advance]
    | cons c rest => simp [advance, ih]

theorem takeRaw_eq (kind : Kind) (n : Nat) (r : Reading) :
    ∃ leaf next, takeRaw kind n r = some (r.comments ++ [leaf], next) ∧ leaf.kind = kind ∧ leaf.text = r.rest.take n ∧
      next.rest = r.rest.drop n ∧ next.left = r.left - n ∧ next.comments = [] :=
  ⟨_, _, rfl, rfl, rfl, advance_fst n r.rest r.place, rfl, rfl⟩

end Taking

section Escapes
variable {c : Char} {body more : List Char}

theorem escapeLength_single (special : c ∉ ['x', 'u', '\r', '?']) (digit : ('0' ≤ c && c ≤ '7') = false)
    (more : List Char) : escapeLength ('\\' :: c :: more) = 2 := by
  simp only [List.mem_cons, List.not_mem_nil, or_false, not_or] at special
  rw [escapeLength.eq_def]
  split <;> simp_all

theorem escapeLength_null (digitless : ∀ c ∈ more.head?, Text.isArabic c = false) :
    escapeLength ('\\' :: '0' :: more) = 2 := by
  cases more with
  | nil => rfl
  | cons d rest =>
    have octal : ('0' ≤ d && d ≤ '7') = false := by
      have digit := digitless d rfl
      simp only [Text.isArabic, Bool.and_eq_false_iff, decide_eq_false_iff_not, Char.not_le] at digit ⊢
      exact digit.imp_right fun above => Char.lt_trans (by decide) above
    simp [escapeLength, octal]

theorem escapeLength_codes (codes : Codes c body) (more : List Char) :
    escapeLength ('\\' :: (body ++ more)) = body.length + 1 := by
  cases codes with
  | two number =>
    have digits := number.isSome
    simp only [List.forall_mem_cons] at digits
    simp [escapeLength, digits.1, digits.2.1]
  | @four a b d e number =>
    have digits := number.isSome
    have brace := (ne_brace_of_hexValue? (digits a List.mem_cons_self)).1
    simp only [List.forall_mem_cons] at digits
    simp [escapeLength, nameEscapeLength, digits.1, digits.2.1, digits.2.2.1, digits.2.2.2.1]
  | @braced digits some number =>
    have among : ((digits ++ '\x7d' :: more).takeWhile fun c => (Text.hexValue? c).isSome) = digits := by
      rw [List.takeWhile_append_of_pos number.isSome]
      simp [Text.hexValue?]
    simp [escapeLength, nameEscapeLength, among, List.length_pos_iff.mpr some]

theorem contains_separators (other : c ≠ '\n') :
    (c == '\n' || c.toNat == 0x2028 || c.toNat == 0x2029) = separators.contains c := by
  have line : c.toNat = 0x2028 ↔ c = '\u2028' := Char.toNat_inj (d := '\u2028')
  have paragraph : c.toNat = 0x2029 ↔ c = '\u2029' := Char.toNat_inj (d := '\u2029')
  rw [Bool.eq_iff_iff]
  simp [separators, other, line, paragraph]

theorem escapeLength_joining {sequence : List Char} (joins : sequence ∈ joining) (unbroken : more.head? ≠ some '\n') :
    escapeLength (sequence ++ more) = 2 + if more.head?.any separators.contains then 1 else 0 := by
  simp only [joining, List.mem_cons, List.not_mem_nil, or_false] at joins
  cases more with
  | nil => rcases joins with rfl | rfl <;> simp [escapeLength]
  | cons c rest =>
    have other : c ≠ '\n' := by simpa using unbroken
    have length : escapeLength (sequence ++ c :: rest) = if separators.contains c then 3 else 2 := by
      rw [← contains_separators other]
      rcases joins with rfl | rfl <;> simp [escapeLength]
    rw [length, List.head?_cons, Option.any_some]
    split <;> rfl

theorem not_joining_of_length {sequence : List Char} (longer : 2 < sequence.length) : sequence ∉ joining := by
  have all : ∀ sequence ∈ joining, sequence.length = 2 := by decide
  intro joins
  have := all _ joins
  omega

theorem not_joining_of_single (special : c ∉ ['x', 'u', '\r', '?']) : ['\\', c] ∉ joining := by
  simp_all [joining]

theorem special_of_octal (octal : ('0' ≤ c && c ≤ '7') = true) : c ∈ specialBehindBackslash := by
  have all : ∀ n ∈ List.range' 48 8, Char.ofNat n ∈ specialBehindBackslash := by decide
  simp only [Bool.and_eq_true, decide_eq_true_eq] at octal
  have low : 48 ≤ c.toNat := octal.1
  have high : c.toNat ≤ 55 := octal.2
  have listed := all c.toNat (by simp; omega)
  rwa [Char.ofNat_toNat] at listed

theorem Element.escapeLength_written {quote : Char} {element : Element quote} (escape : element.isPlain = false)
    (digitless : element = .null → ∀ c ∈ more.head?, Text.isArabic c = false) (unbroken : more.head? ≠ some '\n') :
    escapeLength (element.written ++ more) =
      element.written.length + if element.written ∈ joining ∧ more.head?.any separators.contains then 1 else 0 := by
  have single {c : Char} (special : c ∉ ['x', 'u', '\r', '?']) (digit : ('0' ≤ c && c ≤ '7') = false) :
      escapeLength ('\\' :: c :: more) =
        2 + if ['\\', c] ∈ joining ∧ more.head?.any separators.contains then 1 else 0 := by
    simp [escapeLength_single special digit, not_joining_of_single special]
  cases element with
  | plain c bare => cases escape
  | letter c meant means =>
    have all : ∀ entry ∈ letterMeanings,
        entry.1 ∉ ['x', 'u', '\r', '?'] ∧ ('0' ≤ entry.1 && entry.1 ≤ '7') = false := by decide
    exact single (all _ means).1 (all _ means).2
  | itself c ordinary =>
    by_cases mark : c = '?'
    · subst mark
      have joins : ['\\', '?'] ∈ joining := by decide
      simpa [written, joins] using escapeLength_joining joins unbroken
    · apply single
      · have begins : c ≠ 'x' ∧ c ≠ 'u' ∧ c ≠ '\r' :=
          ⟨ne_of_ordinary ordinary, ne_of_ordinary ordinary, ne_of_ordinary ordinary⟩
        simp [mark, begins]
      · exact Bool.eq_false_iff.mpr fun octal => ordinary (special_of_octal octal)
  | null =>
    have apart : ['\\', '0'] ∉ joining := by decide
    simpa [written, apart] using escapeLength_null (digitless rfl)
  | code c body codes =>
    have apart : '\\' :: body ∉ joining := by
      apply not_joining_of_length
      cases codes <;> simp
    simpa [written, apart] using escapeLength_codes codes more
  | continuation terminator ends =>
    simp only [lineTerminators, List.mem_cons, List.not_mem_nil, or_false] at ends
    rcases ends with rfl | rfl | rfl | rfl | rfl
    case inr.inl => 
      have joins : ['\\', '\r'] ∈ joining := by decide
      simpa [written, joins] using escapeLength_joining joins unbroken
    case inr.inr.inl => 
      have apart : ['\\', '\r', '\n'] ∉ joining := by decide
      simp [written, apart, escapeLength]
    all_goals exact single (by decide) (by decide)

end Escapes

section Strings
variable {quote : Char} {elements others : List (Element quote)} {tail : List Char} {r : Reading}

def quotes : List Char := ['\'', '"']

theorem quote_cases (quoted : quote ∈ quotes) : quote = '\'' ∨ quote = '"' := by simpa [quotes] using quoted

structure Waits (tail : List Char) (elements : List (Element quote)) (r : Reading) : Prop where
  rest : r.rest = elements.flatMap Element.written ++ quote :: tail
  comments : r.comments = []
  room : (elements.flatMap Element.written).length ≤ r.left
  chain : elements.IsChain Element.Precedes

def isBare (quote c : Char) : Bool := c != quote && c != '\\' && c != '\n' && c != '\r'

def stringPart (quote : Char) : Grammar := do
  let text ← rest
  let plain := (text.takeWhile (isBare quote)).length
  if 0 < plain then takeRaw .fragment plain
  else
    let length := escapeLength text
    require (0 < length)
    takeRaw .escape length

theorem stringParts_eq (quote : Char) :
    stringParts quote = manyUntil (fun r => r.rest.head? == some quote) (stringPart quote) := rfl

theorem rest_bind {α : Type} (go : List Char → Parser α) (r : Reading) : (rest >>= go) r = go r.rest r := rfl

theorem stringPart_fragment {n : Nat} (run : (r.rest.takeWhile (isBare quote)).length = n + 1) :
    stringPart quote r = takeRaw .fragment (n + 1) r := by
  rw [stringPart, rest_bind, run]
  simp

theorem stringPart_escape {n : Nat} (stops : r.rest.takeWhile (isBare quote) = [])
    (length : escapeLength r.rest = n + 1) : stringPart quote r = takeRaw .escape (n + 1) r := by
  rw [stringPart, rest_bind, stops, length]
  simp [require]

theorem Waits.take (waits : Waits tail elements r) (kind : Kind) {text : List Char}
    (split : elements.flatMap Element.written = text ++ others.flatMap Element.written) (some : text ≠ [])
    (suffix : others <:+ elements) :
    ∃ leaf next, takeRaw kind text.length r = .some ([leaf], next) ∧ leaf.kind = kind ∧ leaf.text = text ∧
      Waits tail others next ∧ next.left < r.left := by
  obtain ⟨leaf, next, taken, known, covers, rest, left, comments⟩ := takeRaw_eq kind text.length r
  have room := waits.room
  have longer := List.length_pos_iff.mpr some
  rw [split, List.length_append] at room
  rw [waits.rest, split, List.append_assoc] at covers rest
  rw [waits.comments] at taken
  rw [List.take_left] at covers
  rw [List.drop_left] at rest
  exact ⟨leaf, next, taken, known, covers, ⟨rest, comments, by omega, waits.chain.suffix suffix⟩, by omega⟩

theorem next_cases (elements : List (Element quote)) (tail : List Char) :
    (∃ c bare others, elements = .plain c bare :: others ∧
      (elements.flatMap Element.written ++ quote :: tail).head? = some c) ∨
    (∀ element ∈ elements.head?, element.isPlain = false) ∧
      ∃ c ∈ ['\\', quote], (elements.flatMap Element.written ++ quote :: tail).head? = some c := by
  cases elements with
  | nil => simp
  | cons element others =>
    cases element with
    | plain c bare => exact .inl ⟨c, bare, others, rfl, rfl⟩
    | _ => exact .inr ⟨by simp [Element.isPlain], '\\', by simp, rfl⟩

theorem takeWhile_stops (stops : ∀ element ∈ elements.head?, element.isPlain = false) (tail : List Char) :
    (elements.flatMap Element.written ++ quote :: tail).takeWhile (isBare quote) = [] := by
  rcases next_cases elements tail with ⟨c, bare, others, rfl, _⟩ | ⟨_, c, listed, next⟩
  · cases stops _ rfl
  · obtain ⟨rest, split⟩ := List.head?_eq_some_iff.mp next
    rw [split, List.takeWhile_cons]
    simp only [List.mem_cons, List.not_mem_nil, or_false] at listed
    rcases listed with rfl | rfl <;> simp [isBare]

theorem isBare_of_isPlain {run : List (Element quote)} (plain : ∀ element ∈ run, element.isPlain = true) :
    ∀ c ∈ run.flatMap Element.written, isBare quote c = true := by
  intro c member
  obtain ⟨element, listed, written⟩ := List.mem_flatMap.mp member
  cases element with
  | plain d bare =>
    rw [Element.written, List.mem_singleton] at written
    subst written
    simpa [isBare, and_assoc] using bare
  | _ => cases plain _ listed

structure Advances (tail : List Char) (elements others : List (Element quote)) (r next : Reading) (leaf : Node) :
    Prop where
  reads : stringPart quote r = some ([leaf], next)
  less : next.left < r.left
  fewer : others.length < elements.length
  waits : Waits tail others next
  spells : ∀ {parts : List Node}, Spells parts others → Spells (leaf :: parts) elements

theorem Element.written_ne_nil (element : Element quote) : element.written ≠ [] := by
  cases element <;> simp [written]

theorem Waits.advance_plain {run : List (Element quote)} (waits : Waits tail (run ++ others) r) (some : run ≠ [])
    (plain : ∀ element ∈ run, element.isPlain = true) (stops : ∀ element ∈ others.head?, element.isPlain = false) :
    ∃ next leaf, Advances tail (run ++ others) others r next leaf := by
  have length : 0 < (run.flatMap Element.written).length := by
    cases run with
    | nil => contradiction
    | cons element run => simp [List.length_pos_iff.mpr element.written_ne_nil]
  obtain ⟨leaf, next, taken, kind, text, later, less⟩ :=
    waits.take .fragment List.flatMap_append (List.length_pos_iff.mp length) (List.suffix_append run others)
  have covers : r.rest.takeWhile (isBare quote) = run.flatMap Element.written := by
    rw [waits.rest, List.flatMap_append, List.append_assoc, List.takeWhile_append_of_pos (isBare_of_isPlain plain),
      takeWhile_stops stops, List.append_nil]
  obtain ⟨n, size⟩ := Nat.exists_eq_succ_of_ne_zero length.ne'
  rw [size] at taken
  have reads := stringPart_fragment (covers ▸ size : (r.rest.takeWhile (isBare quote)).length = n + 1)
  exact ⟨next, leaf, reads.trans taken, less, by simp [List.length_pos_iff.mpr some], later,
    .fragment kind plain text⟩

theorem next_fits {element : Element quote} (quoted : quote ∈ quotes)
    (chain : (element :: others).IsChain Element.Precedes) (tail : List Char) :
    (element = .null → ∀ c ∈ (others.flatMap Element.written ++ quote :: tail).head?, Text.isArabic c = false) ∧
      (others.flatMap Element.written ++ quote :: tail).head? ≠ some '\n' := by
  rcases next_cases others tail with ⟨c, bare, later, rfl, next⟩ | ⟨_, c, listed, next⟩ <;> rw [next]
  · constructor
    · rintro rfl _ ⟨⟩
      exact chain.rel
    · rintro ⟨⟩
      simp at bare
  · have fits : ∀ c ∈ ['\\', quote], Text.isArabic c = false ∧ c ≠ '\n' := by
      rcases quote_cases quoted with rfl | rfl <;> simp [Text.isArabic]
    simp [fits c listed]

theorem not_separates (quoted : quote ∈ quotes) : ∀ c ∈ ['\\', quote], c ∉ separators := by
  rcases quote_cases quoted with rfl | rfl <;> simp [separators]

theorem Waits.advance_covered (waits : Waits tail elements r) (text : List Char)
    (stops : r.rest.takeWhile (isBare quote) = []) (length : escapeLength r.rest = text.length) (some : text ≠ [])
    (split : elements.flatMap Element.written = text ++ others.flatMap Element.written) (suffix : others <:+ elements)
    (spells : ∀ {leaf : Node} {parts : List Node}, leaf.kind = .escape → leaf.text = text → Spells parts others →
      Spells (leaf :: parts) elements) : ∃ next leaf, Advances tail elements others r next leaf := by
  obtain ⟨leaf, next, taken, kind, covers, later, less⟩ := waits.take .escape split some suffix
  obtain ⟨n, size⟩ := Nat.exists_eq_succ_of_ne_zero (List.length_pos_iff.mpr some).ne'
  have fewer : others.length < elements.length := by
    refine Nat.lt_of_le_of_ne suffix.length_le fun same => some ?_
    rw [suffix.eq_of_length same] at split
    simpa using split
  rw [size] at taken length
  exact ⟨next, leaf, (stringPart_escape stops length).trans taken, less, fewer, later, spells kind covers⟩

theorem Waits.advance_escape {element : Element quote} (waits : Waits tail (element :: others) r)
    (quoted : quote ∈ quotes) (escape : element.isPlain = false) :
    ∃ rest next leaf, Advances tail (element :: others) rest r next leaf := by
  have whole : r.rest = element.written ++ (others.flatMap Element.written ++ quote :: tail) := by
    rw [waits.rest, List.flatMap_cons, List.append_assoc]
  have stops : r.rest.takeWhile (isBare quote) = [] := by
    rw [waits.rest]
    apply takeWhile_stops
    simpa using escape
  have fits := next_fits quoted waits.chain tail
  have length := element.escapeLength_written escape fits.1 fits.2
  rw [← whole] at length
  split at length
  · next joins =>
    obtain ⟨joins, separates⟩ := joins
    rcases next_cases others tail with ⟨c, bare, later, rfl, next⟩ | ⟨_, c, listed, next⟩ <;> rw [next] at separates
    · have separates : c ∈ separators := by simpa using separates
      have suffix : later <:+ element :: .plain c bare :: later :=
        (List.suffix_cons _ _).trans (List.suffix_cons _ _)
      refine ⟨later, waits.advance_covered (element.written ++ [c]) stops ?_ ?_ ?_ suffix ?_⟩
      · simpa using length
      · simp
      · simp [Element.written]
      · exact fun kind text => .joined kind joins separates text
    · exact absurd (by simpa using separates) (not_separates quoted c listed)
  · exact ⟨others, waits.advance_covered element.written stops length element.written_ne_nil List.flatMap_cons
      (List.suffix_cons _ _) fun kind text => .escape kind escape text⟩

theorem exists_run (elements : List (Element quote)) : ∃ run others, elements = run ++ others ∧
    (∀ element ∈ run, element.isPlain = true) ∧ ∀ element ∈ others.head?, element.isPlain = false := by
  refine ⟨elements.takeWhile Element.isPlain, elements.dropWhile Element.isPlain, ?_, ?_, ?_⟩
  · exact List.takeWhile_append_dropWhile.symm
  · exact List.all_eq_true.mp List.all_takeWhile
  · intro element member
    have first := List.head?_dropWhile_not Element.isPlain elements
    rw [member] at first
    exact first

theorem Waits.advance (waits : Waits tail elements r) (quoted : quote ∈ quotes) (some : elements ≠ []) :
    ∃ others next leaf, Advances tail elements others r next leaf := by
  obtain ⟨run, others, rfl, plain, stops⟩ := exists_run elements
  cases run with
  | cons element run => exact ⟨others, waits.advance_plain (List.cons_ne_nil element run) plain stops⟩
  | nil =>
    obtain ⟨element, others, rfl⟩ := List.exists_cons_of_ne_nil some
    exact waits.advance_escape quoted (stops element rfl)

theorem head?_ne_quote (quoted : quote ∈ quotes) (some : elements ≠ []) (tail : List Char) :
    ((elements.flatMap Element.written ++ quote :: tail).head? == .some quote) = false := by
  obtain ⟨element, others, rfl⟩ := List.exists_cons_of_ne_nil some
  have backslash : '\\' ≠ quote := by rcases quote_cases quoted with rfl | rfl <;> decide
  cases element with
  | plain c bare =>
    have other : c ≠ quote := by
      rintro rfl
      simp at bare
    simpa [Element.written] using other
  | _ => simpa [Element.written] using backslash

theorem repeatUntil_spells {bound : Nat} {done : List (List Node)} (waits : Waits tail elements r)
    (quoted : quote ∈ quotes) (enough : elements.length < bound) :
    ∃ parts next, repeatUntil (fun r => r.rest.head? == some quote) (stringPart quote) bound done r =
        some (done.reverse.flatten ++ parts, next) ∧ Spells parts elements ∧
      Waits tail ([] : List (Element quote)) next := by
  -- On the rounds that are still allowed: each one takes at least one element, so they last to the closing quote.
  induction bound generalizing elements done r with
  | zero => omega
  | succ bound ih =>
    rw [repeatUntil]
    by_cases ends : elements = []
    · subst ends
      exact ⟨[], r, by simp [waits.rest], .nil, waits⟩
    · obtain ⟨others, next, leaf, advances⟩ := waits.advance quoted ends
      obtain ⟨parts, last, reads, spells, closed⟩ := @ih others next ([leaf] :: done) advances.waits
        (Nat.lt_of_lt_of_le advances.fewer (Nat.le_of_lt_succ enough))
      refine ⟨leaf :: parts, last, ?_, advances.spells spells, closed⟩
      simp only [waits.rest, head?_ne_quote quoted ends, advances.reads, Nat.not_le.mpr advances.less]
      simpa using reads

theorem length_le_written (elements : List (Element quote)) :
    elements.length ≤ (elements.flatMap Element.written).length := by
  induction elements with
  | nil => simp
  | cons element others ih =>
    have := List.length_pos_iff.mpr element.written_ne_nil
    simp only [List.flatMap_cons, List.length_cons, List.length_append]
    omega

theorem stringParts_spells (waits : Waits tail elements r) (quoted : quote ∈ quotes) :
    ∃ parts next, stringParts quote r = some (parts, next) ∧ Spells parts elements ∧
      Waits tail ([] : List (Element quote)) next := by
  have enough : elements.length < r.left + 1 :=
    Nat.lt_succ_of_le (Nat.le_trans (length_le_written elements) waits.room)
  rw [stringParts_eq]
  exact repeatUntil_spells waits quoted enough

theorem Spells.isNamed {parts : List Node} (spells : Spells parts elements) : ∀ part ∈ parts, part.isNamed = true := by
  induction spells with
  | nil => simp
  | fragment kind _ _ _ ih => simpa [Node.isNamed, kind] using ih
  | escape kind _ _ _ ih => simpa [Node.isNamed, kind] using ih
  | joined kind _ _ _ _ ih => simpa [Node.isNamed, kind] using ih

theorem wrap_comments {comments others : List Node} {first : Node} (kind : Kind)
    (commented : ∀ node ∈ comments, node.kind = .comment) (apart : first.kind ≠ .comment) :
    wrap kind (comments ++ first :: others) = comments ++ [Node.ofParts kind first others] := by
  have front : (comments ++ first :: others).takeWhile (·.kind == .comment) = comments := by
    rw [List.takeWhile_append_of_pos (by simpa using commented), List.takeWhile_cons]
    simp [apart]
  rw [wrap, front, List.drop_left]

theorem isLiteral_of_string {next : Reading} {nodes : List Node} (quoted : quote ∈ quotes)
    (written : r.rest = quote :: (elements.flatMap Element.written ++ quote :: tail))
    (chain : elements.IsChain Element.Precedes) (room : r.rest.length ≤ r.left)
    (commented : ∀ node ∈ r.comments, node.kind = .comment) (given : string r = some (nodes, next)) :
    ∃ literal, nodes = r.comments ++ [literal] ∧ IsLiteral literal elements := by
  obtain ⟨opening, inside, opened, mark, _, rest, left, comments⟩ := takeRaw_eq .mark 1 r
  have waits : Waits tail elements inside := by
    rw [written] at rest room
    simp only [List.length_cons, List.length_append] at room
    exact ⟨rest, comments, by omega, chain⟩
  obtain ⟨parts, last, reads, spells, closed⟩ := stringParts_spells waits quoted
  obtain ⟨closing, settled, taken, mark', _⟩ := takeRaw_eq .mark 1 last
  have allowed : (quote == '\'' || quote == '"') = true := by simpa using quote_cases quoted
  rw [string, rest_bind, written, List.head?_cons, Option.getD_some, allowed] at given
  obtain ⟨_, _, ⟨⟩, given⟩ := bind_eq_some given
  obtain ⟨_, _, here, given⟩ := bind_eq_some given
  cases opened.symm.trans here
  obtain ⟨_, _, here, given⟩ := bind_eq_some given
  cases reads.symm.trans here
  obtain ⟨_, _, ended, ⟨⟩⟩ := bind_eq_some given
  obtain ⟨_, _, here, ended⟩ := bind_eq_some ended
  cases taken.symm.trans here
  obtain ⟨_, _, _, ⟨⟩⟩ := bind_eq_some ended
  refine ⟨.ofParts .string opening (parts ++ [closing]), ?_, rfl, ?_⟩
  · have apart : opening.kind ≠ .comment := by simp [mark]
    simp [closed.comments, wrap_comments .string commented apart]
  · have named : parts.filter Node.isNamed = parts := List.filter_eq_self.mpr spells.isNamed
    simpa [Node.ofParts, Node.namedParts, Node.parts, Node.isNamed, mark, mark', named] using spells

end Strings

end EnvAudit.Script
