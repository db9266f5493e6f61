import EnvAudit.Proofs.Outcome
import EnvAudit.Script.Literal
import Mathlib.Algebra.Order.BigOperators.Group.List
import Mathlib.Data.List.Induction
import Mathlib.Data.Nat.Digits.Defs

/-! What quoted strings stand for. Between its quotes a string has plain characters, escapes, and lines that are
continued behind a backslash. The language says what each of them stands for; the value that is taken for a string
agrees with it except that the end of a continued line is kept. -/
namespace EnvAudit.Script

def IsHexDigit (c : Char) (value : Nat) : Prop :=
  "0123456789abcdef".toList[value]? = some c ∨ "0123456789ABCDEF".toList[value]? = some c

instance (c : Char) (value : Nat) : Decidable (IsHexDigit c value) := inferInstanceAs (Decidable (_ ∨ _))

def IsHexNumber (digits : List Char) (n : Nat) : Prop :=
  ∃ values, List.Forall₂ IsHexDigit digits values ∧ Nat.ofDigits 16 values.reverse = n

inductive Codes (c : Char) : List Char → Prop
  | two {a b : Char} (number : IsHexNumber [a, b] c.toNat) : Codes c ['x', a, b]
  | four {a b d e : Char} (number : IsHexNumber [a, b, d, e] c.toNat) : Codes c ['u', a, b, d, e]
  | braced {digits : List Char} (some : digits ≠ []) (number : IsHexNumber digits c.toNat) :
    Codes c ('u' :: '\x7b' :: (digits ++ ['\x7d']))

def letterMeanings : List (Char × Char) :=
  [('b', '\x08'), ('t', '\t'), ('n', '\n'), ('v', '\x0b'), ('f', '\x0c'), ('r', '\r')]

def lineTerminators : List (List Char) := [['\n'], ['\r'], ['\r', '\n'], ['\u2028'], ['\u2029']]

def specialBehindBackslash : List Char := "btnvfrxu0123456789\n\r\u2028\u2029".toList

inductive Element (quote : Char)
  | plain (c : Char) (bare : c ∉ [quote, '\\', '\n', '\r'])
  | letter (c meant : Char) (means : (c, meant) ∈ letterMeanings)
  | itself (c : Char) (ordinary : c ∉ specialBehindBackslash)
  | null
  | code (c : Char) (body : List Char) (codes : Codes c body)
  | continuation (terminator : List Char) (ends : terminator ∈ lineTerminators)

namespace Element
variable {quote : Char}

def written : Element quote → List Char
  | plain c _ => [c]
  | letter c _ _ => ['\\', c]
  | itself c _ => ['\\', c]
  | null => ['\\', '0']
  | code _ body _ => '\\' :: body
  | continuation terminator _ => '\\' :: terminator

/-- What an element stands for; a line that is continued adds nothing. -/
def value : Element quote → List Char
  | plain c _ => [c]
  | letter _ meant _ => [meant]
  | itself c _ => [c]
  | null => ['\x00']
  | code c _ _ => [c]
  | continuation _ _ => []

/-- What is taken for an element; a line that is continued keeps its end. -/
def kept : Element quote → List Char
  | continuation terminator _ => terminator
  | element => element.value

def isPlain : Element quote → Bool
  | plain _ _ => true
  | _ => false

def isContinuation : Element quote → Bool
  | continuation _ _ => true
  | _ => false

end Element

section Numbers

theorem hexValue?_of_isHexDigit {c : Char} {value : Nat} (digit : IsHexDigit c value) :
    Text.hexValue? c = some value := by
  have listed : (c, value) ∈ "0123456789abcdef".toList.zipIdx ++ "0123456789ABCDEF".toList.zipIdx := by
    rw [List.mem_append, List.mk_mem_zipIdx_iff_getElem?, List.mk_mem_zipIdx_iff_getElem?]
    exact digit
  have all : ∀ entry ∈ "0123456789abcdef".toList.zipIdx ++ "0123456789ABCDEF".toList.zipIdx,
      Text.hexValue? entry.1 = some entry.2 := by decide
  exact all _ listed

theorem mapM_hexValue?_of_forall₂ {digits : List Char} {values : List Nat}
    (each : List.Forall₂ IsHexDigit digits values) : digits.mapM Text.hexValue? = some values := by
  induction each with
  | nil => simp
  | cons digit _ ih => simp [hexValue?_of_isHexDigit digit, ih]

theorem valueOf_eq_ofDigits (values : List Nat) : Text.valueOf 16 values = Nat.ofDigits 16 values.reverse := by
  induction values using List.reverseRecOn with
  | nil => simp [Text.valueOf]
  | append_singleton values last ih =>
    rw [List.reverse_concat, Nat.ofDigits_cons, ← ih]
    simp [Text.valueOf]
    omega

theorem isSome_of_forall₂ {digits : List Char} {values : List Nat} (each : List.Forall₂ IsHexDigit digits values) :
    ∀ c ∈ digits, (Text.hexValue? c).isSome = true := by
  induction each with
  | nil => simp
  | cons digit _ ih => simpa [hexValue?_of_isHexDigit digit] using ih

theorem IsHexNumber.isSome {digits : List Char} {n : Nat} (number : IsHexNumber digits n) :
    ∀ c ∈ digits, (Text.hexValue? c).isSome = true := by
  obtain ⟨values, each, _⟩ := number
  exact isSome_of_forall₂ each

theorem ne_brace_of_hexValue? {c : Char} (digit : (Text.hexValue? c).isSome = true) : c ≠ '\x7b' ∧ c ≠ '\x7d' := by
  constructor <;> rintro rfl <;> revert digit <;> decide

theorem IsHexNumber.filter_eq {digits : List Char} {n : Nat} (number : IsHexNumber digits n) :
    digits.filter (fun c => c != '\x7b' && c != '\x7d') = digits := by
  apply List.filter_eq_self.mpr
  intro c member
  simpa using ne_brace_of_hexValue? (number.isSome c member)

theorem escapedCode?_of_isHexNumber {body digits : List Char} {n : Nat} (number : IsHexNumber digits n)
    (some : digits ≠ []) (bare : body.filter (fun c => c != '\x7b' && c != '\x7d') = digits) :
    escapedCode? body = .some n := by
  obtain ⟨values, each, total⟩ := number
  simp only [escapedCode?, bare, List.isEmpty_eq_false_iff.mpr some, mapM_hexValue?_of_forall₂ each, ← total]
  simp [valueOf_eq_ofDigits]

end Numbers

section Escapes

theorem codeText_toNat (sequence : List Char) (c : Char) : codeText sequence c.toNat = .ok [c] := by
  have valid : c.toNat < 0xd800 ∨ 0xdfff < c.toNat ∧ c.toNat < 0x110000 := c.valid
  have known : ¬ greatestCode < c.toNat := by
    rw [greatestCode]
    omega
  have within : ¬ 0x10ffff < c.toNat := by omega
  have whole : (0xd800 ≤ c.toNat && c.toNat ≤ 0xdfff) = false := by
    rw [Bool.and_eq_false_iff, decide_eq_false_iff_not, decide_eq_false_iff_not]
    omega
  rw [codeText, if_neg known, if_neg within, whole, Char.ofNat_toNat]
  simp

theorem unescape_coded {c letter : Char} {digits : List Char} (coded : letter = 'u' ∨ letter = 'x')
    (found : escapedCode? digits = some c.toNat) : unescape ('\\' :: letter :: digits) = .ok [c] := by
  simp [unescape, coded, found, codeText_toNat]

theorem unescape_of_codes {c : Char} {body : List Char} (codes : Codes c body) :
    unescape ('\\' :: body) = .ok [c] := by
  cases codes with
  | two number =>
    exact unescape_coded (.inr rfl) (escapedCode?_of_isHexNumber number (List.cons_ne_nil _ _) number.filter_eq)
  | four number =>
    exact unescape_coded (.inl rfl) (escapedCode?_of_isHexNumber number (List.cons_ne_nil _ _) number.filter_eq)
  | @braced digits some number =>
    have bare : ('\x7b' :: (digits ++ ['\x7d'])).filter (fun c => c != '\x7b' && c != '\x7d') = digits := by
      simp [number.filter_eq]
    exact unescape_coded (.inl rfl) (escapedCode?_of_isHexNumber number some bare)

theorem unescape_single {c : Char} (uncoded : c ≠ 'u' ∧ c ≠ 'x') :
    unescape ['\\', c] = .ok [(letterEscape? c).getD c] := by
  cases found : letterEscape? c <;> simp [unescape, uncoded.1, uncoded.2, found]

theorem letterEscape?_of_means {c meant : Char} (means : (c, meant) ∈ letterMeanings) :
    letterEscape? c = some meant ∧ c ≠ 'u' ∧ c ≠ 'x' := by
  have all : ∀ entry ∈ letterMeanings,
      letterEscape? entry.1 = some entry.2 ∧ entry.1 ≠ 'u' ∧ entry.1 ≠ 'x' := by decide
  exact all _ means

theorem letterEscape?_of_ordinary {c : Char} (ordinary : c ∉ specialBehindBackslash) : letterEscape? c = none := by
  unfold letterEscape?
  split
  case h_8 => rfl
  all_goals exact absurd (by decide) ordinary

theorem ne_of_ordinary {c special : Char} (ordinary : c ∉ specialBehindBackslash)
    (listed : special ∈ specialBehindBackslash := by decide) : c ≠ special := by
  rintro rfl
  exact ordinary listed

theorem Element.unescape_written {quote : Char} {element : Element quote} (escape : element.isPlain = false) :
    unescape element.written = .ok element.kept := by
  cases element with
  | plain c bare => cases escape
  | letter c meant means =>
    obtain ⟨found, uncoded⟩ := letterEscape?_of_means means
    simp [written, kept, value, unescape_single uncoded, found]
  | itself c ordinary =>
    have uncoded : c ≠ 'u' ∧ c ≠ 'x' := ⟨ne_of_ordinary ordinary, ne_of_ordinary ordinary⟩
    simp [written, kept, value, unescape_single uncoded, letterEscape?_of_ordinary ordinary]
  | null => rfl
  | code c body codes => exact unescape_of_codes codes
  | continuation terminator ends =>
    simp only [lineTerminators, List.mem_cons, List.not_mem_nil, or_false] at ends
    rcases ends with rfl | rfl | rfl | rfl | rfl <;> rfl

end Escapes

def separators : List Char := ['\u2028', '\u2029']

def joining : List (List Char) := [['\\', '?'], ['\\', '\r']]

inductive Spells {quote : Char} : List Node → List (Element quote) → Prop
  | nil : Spells [] []
  | fragment {node : Node} {parts : List Node} {run others : List (Element quote)} (kind : node.kind = .fragment)
    (plain : ∀ element ∈ run, element.isPlain = true) (text : node.text = run.flatMap Element.written)
    (later : Spells parts others) : Spells (node :: parts) (run ++ others)
  | escape {node : Node} {parts : List Node} {element : Element quote} {others : List (Element quote)}
    (kind : node.kind = .escape) (escaped : element.isPlain = false) (text : node.text = element.written)
    (later : Spells parts others) : Spells (node :: parts) (element :: others)
  | joined {node : Node} {parts : List Node} {element : Element quote} {separator : Char}
    {bare : separator ∉ [quote, '\\', '\n', '\r']} {others : List (Element quote)} (kind : node.kind = .escape)
    (joins : element.written ∈ joining) (separates : separator ∈ separators)
    (text : node.text = element.written ++ [separator]) (later : Spells parts others) :
    Spells (node :: parts) (element :: .plain separator bare :: others)

structure IsLiteral {quote : Char} (node : Node) (elements : List (Element quote)) : Prop where
  quoted : node.kind = .string
  spells : Spells node.namedParts elements

section Values
variable {quote : Char} {element : Element quote} {elements : List (Element quote)} {parts : List Node}

theorem Element.written_of_isPlain (plain : element.isPlain = true) :
    element.written = element.kept := by
  cases element with
  | plain c bare => rfl
  | _ => cases plain

theorem flatMap_written_of_isPlain (plain : ∀ element ∈ elements, element.isPlain = true) :
    elements.flatMap Element.written = elements.flatMap Element.kept :=
  List.flatMap_congr fun element member => Element.written_of_isPlain (plain element member)

theorem Element.isPlain_of_joins (joins : element.written ∈ joining) : element.isPlain = false := by
  cases element with
  | plain c bare => simp [written, joining] at joins
  | _ => rfl

theorem Element.unescape_joined {separator : Char} (joins : element.written ∈ joining)
    (separates : separator ∈ separators) :
    unescape (element.written ++ [separator]) = .ok (element.kept ++ [separator]) := by
  have alone := unescape_written (isPlain_of_joins joins)
  have all : ∀ sequence ∈ joining, ∀ separator ∈ separators,
      unescape sequence = .ok (sequence.drop 1) ∧
        unescape (sequence ++ [separator]) = .ok (sequence.drop 1 ++ [separator]) := by
    simp [joining, separators, unescape, letterEscape?]
  obtain ⟨body, together⟩ := all _ joins separator separates
  rw [body, Except.ok.injEq] at alone
  rw [together, alone]

theorem partsText_of_spells (spells : Spells parts elements) :
    partsText parts = .ok (elements.flatMap Element.kept) := by
  induction spells with
  | nil => rfl
  | fragment kind plain text _ ih =>
    simp [partsText, partText, kind, text, ih, flatMap_written_of_isPlain plain, bind, Except.bind, pure, Except.pure]
  | escape kind escaped text _ ih =>
    simp [partsText, partText, kind, text, ih, Element.unescape_written escaped, bind, Except.bind, pure, Except.pure]
  | joined kind joins separates text _ ih =>
    simp [partsText, partText, kind, text, ih, Element.unescape_joined joins separates, Element.kept, Element.value,
      bind, Except.bind, pure, Except.pure]

theorem partsText_filter_isNamed (parts : List Node) : partsText (parts.filter Node.isNamed) = partsText parts := by
  induction parts with
  | nil => rfl
  | cons part rest ih =>
    by_cases named : part.isNamed = true
    · simp [named, partsText, ih]
    · have mark : part.kind = .mark := by simpa [Node.isNamed] using named
      simp only [List.filter_cons_of_neg named, ih, partsText, partText, mark]
      cases partsText rest <;> rfl

theorem IsLiteral.literalValue?_eq {node : Node} (literal : IsLiteral node elements) :
    literalValue? node = .ok (some (String.ofList (elements.flatMap Element.kept))) := by
  have spells := literal.spells
  rw [Node.namedParts] at spells
  simp [literalValue?, literal.quoted, ← partsText_filter_isNamed node.parts, partsText_of_spells spells, Except.map]

theorem Element.length_value_le (element : Element quote) : element.value.length ≤ element.kept.length := by
  cases element <;> simp [value, kept]

theorem Element.length_value_lt_iff (element : Element quote) :
    element.value.length < element.kept.length ↔ element.isContinuation = true := by
  cases element with
  | continuation terminator ends =>
    have some : terminator ≠ [] := by
      rintro rfl
      revert ends
      decide
    simpa [value, kept, isContinuation, List.length_pos_iff] using some
  | _ => simp [value, kept, isContinuation]

/-- The value that is taken for a string is what the string stands for exactly if no line is continued in it. -/
theorem flatMap_kept_eq_iff : elements.flatMap Element.kept = elements.flatMap Element.value ↔
    ∀ element ∈ elements, element.isContinuation = false := by
  constructor
  · intro same element member
    by_contra continued
    have continued := element.length_value_lt_iff.mpr (Bool.not_eq_false _ ▸ continued)
    have longer := List.sum_lt_sum (fun element : Element quote => element.value.length)
      (fun element => element.kept.length) (fun element _ => element.length_value_le) ⟨element, member, continued⟩
    have equal := congrArg List.length same
    rw [List.length_flatMap, List.length_flatMap] at equal
    omega
  · intro straight
    apply List.flatMap_congr
    intro element member
    cases element with
    | continuation terminator ends => cases straight _ member
    | _ => rfl

end Values

end EnvAudit.Script
