import EnvAudit.Proofs.Audit.Citation
import EnvAudit.Proofs.Pattern.Language
import Mathlib.Data.List.TakeWhile

/-! Numbers as values. A rule that demands a number admits exactly the numerals. What code uses as a number is judged by
the shape of the value, and the shape is taken for a number also where a line feed follows the numeral: both judgements
read one regular expression, but only the former to the end of the text. The shapes of truth values and of JSON are
narrower than the types of these names. -/
namespace EnvAudit

namespace Shape
open Pattern Glob

def IsDigits (text : List Char) : Prop := text ≠ [] ∧ ∀ c ∈ text, Text.isDigit c = true

inductive IsUnsigned : List Char → Prop
  | whole {digits : List Char} (valid : IsDigits digits) : IsUnsigned digits
  | fraction {digits decimals : List Char} (valid : IsDigits digits) (further : IsDigits decimals) :
      IsUnsigned (digits ++ '.' :: decimals)

inductive IsNumeral : List Char → Prop
  | plain {text : List Char} (unsigned : IsUnsigned text) : IsNumeral text
  | negative {text : List Char} (unsigned : IsUnsigned text) : IsNumeral ('-' :: text)

def IsNumeralLine (text : List Char) : Prop := ∃ numeral, IsNumeral numeral ∧ text = numeral ++ ['\n']

def isUnsigned (text : List Char) : Bool :=
  match text.takeWhile Text.isDigit, text.dropWhile Text.isDigit with
  | _ :: _, [] => true
  | _ :: _, '.' :: fraction => !fraction.isEmpty && fraction.all Text.isDigit
  | _, _ => false

section Recognition
variable {text : List Char}

theorem isNumber_eq (text : List Char) :
    isNumber text = isUnsigned (if text.head? == some '-' then text.drop 1 else text) := rfl

theorem isUnsigned_iff : isUnsigned text = true ↔ IsUnsigned text := by
  have split := List.takeWhile_append_dropWhile (p := Text.isDigit) (l := text)
  have digits : ∀ c ∈ text.takeWhile Text.isDigit, Text.isDigit c = true := fun c => List.mem_takeWhile_imp
  constructor
  · intro found
    rw [isUnsigned] at found
    split at found
    · next first others rest taken left =>
      rw [left, List.append_nil] at split
      rw [← split]
      exact .whole ⟨by simp [taken], digits⟩
    · next first others rest decimals taken left =>
      rw [left] at split
      rw [Bool.and_eq_true, Bool.not_eq_true', List.isEmpty_eq_false_iff, List.all_eq_true] at found
      rw [← split]
      exact .fraction ⟨by simp [taken], digits⟩ found
    · cases found
  · intro unsigned
    rw [isUnsigned]
    cases unsigned with
    | whole valid =>
      rw [List.takeWhile_eq_self_iff.mpr valid.2, List.dropWhile_eq_nil_iff.mpr valid.2]
      obtain ⟨first, others, rfl⟩ := List.exists_cons_of_ne_nil valid.1
      rfl
    | fraction valid further =>
      have point : Text.isDigit '.' = false := by decide
      rw [List.takeWhile_append_of_pos valid.2, List.dropWhile_append_of_pos valid.2,
        List.takeWhile_cons_of_neg (by simp [point]), List.dropWhile_cons_of_neg (by simp [point]), List.append_nil]
      obtain ⟨first, others, rfl⟩ := List.exists_cons_of_ne_nil valid.1
      simpa [IsDigits] using further

theorem IsUnsigned.head?_ne (unsigned : IsUnsigned text) : text.head? ≠ some '-' := by
  have minus {digits rest : List Char} (valid : IsDigits digits) : (digits ++ rest).head? ≠ some '-' := by
    obtain ⟨first, others, rfl⟩ := List.exists_cons_of_ne_nil valid.1
    rintro ⟨⟩
    exact absurd (valid.2 '-' List.mem_cons_self) (by decide)
  cases unsigned with
  | whole valid => exact List.append_nil text ▸ minus valid
  | fraction valid _ => exact minus valid

theorem isNumber_iff : isNumber text = true ↔ IsNumeral text := by
  rw [isNumber_eq, isUnsigned_iff]
  constructor
  · intro unsigned
    split at unsigned
    · next signed =>
      obtain ⟨rest, rfl⟩ := List.head?_eq_some_iff.mp (beq_iff_eq.mp signed)
      exact .negative unsigned
    · exact .plain unsigned
  · rintro (unsigned | unsigned)
    · rw [if_neg (by simpa using unsigned.head?_ne)]
      exact unsigned
    · exact unsigned

theorem dropEnding_append (front : List Char) : Text.dropEnding ['\n'] (front ++ ['\n']) = front := by
  simp [Text.dropEnding, Text.dropStart?]

theorem dropEnding_eq_self (other : text.getLast? ≠ some '\n') : Text.dropEnding ['\n'] text = text := by
  rw [Text.dropEnding]
  cases reversed : text.reverse with
  | nil => rfl
  | cons last before =>
    have differs : '\n' ≠ last := by
      rintro rfl
      exact other (by rw [List.getLast?_eq_head?_reverse, reversed]; rfl)
    simp [Text.dropStart?, differs]

theorem IsUnsigned.getLast?_ne (unsigned : IsUnsigned text) (front : List Char) :
    (front ++ text).getLast? ≠ some '\n' := by
  have last (front : List Char) {digits : List Char} (valid : IsDigits digits) :
      (front ++ digits).getLast? ≠ some '\n' := by
    intro ending
    rw [List.getLast?_append_of_ne_nil _ valid.1] at ending
    exact absurd (valid.2 '\n' (List.mem_of_getLast? ending)) (by decide)
  cases unsigned with
  | whole valid => exact last front valid
  | @fraction digits _ _ further => simpa using last (front ++ digits ++ ['.']) further

theorem IsNumeral.getLast?_ne (numeral : IsNumeral text) : text.getLast? ≠ some '\n' := by
  cases numeral with
  | plain unsigned => exact unsigned.getLast?_ne []
  | negative unsigned => exact unsigned.getLast?_ne ['-']

theorem isNumberLine_iff : isNumberLine text = true ↔ IsNumeral text ∨ IsNumeralLine text := by
  rw [isNumberLine, isNumber_iff]
  by_cases ending : text.getLast? = some '\n'
  · obtain ⟨front, rfl⟩ := List.getLast?_eq_some_iff.mp ending
    rw [dropEnding_append]
    constructor
    · exact fun numeral => .inr ⟨front, numeral, rfl⟩
    · rintro (numeral | ⟨other, numeral, same⟩)
      · exact absurd ending numeral.getLast?_ne
      · exact List.append_cancel_right same ▸ numeral
  · rw [dropEnding_eq_self ending]
    constructor
    · exact .inl
    · rintro (numeral | ⟨front, numeral, rfl⟩)
      · exact numeral
      · exact absurd List.getLast?_concat ending

end Recognition

def numberSetting : String := "^-?\\d+(\\.\\d+)?$"

def digitExpr : Expr := .set false [.category .digit false] {}

def signExpr : Expr := .repeated .greedy 0 (some 1) (charExpr '-'.toNat {})

def digitsExpr : Expr := .repeated .greedy 1 none digitExpr

def fractionExpr : Expr := .repeated .greedy 0 (some 1) (.group 1 (.seq (charExpr '.'.toNat {}) digitsExpr))

def numberExpr : Expr := .sequence [.place .start, signExpr, digitsExpr, fractionExpr, .place .ending]

section Expression

theorem compile_numberSetting : Pattern.compile numberSetting = .ok ⟨numberSetting, numberExpr⟩ := by
  have read : (Pattern.parse numberSetting.toList {}).toOption = some numberExpr := by decide +kernel
  rw [Pattern.compile]
  cases parsed : Pattern.parse numberSetting.toList {} with
  | error fault =>
    rw [parsed] at read
    cases read
  | ok e =>
    rw [parsed] at read
    rw [Option.some.inj read]
    rfl

theorem takesOne_digit : TakesOne digitExpr Text.isDigit := by
  have same : setContains false [.category .digit false] {} = Text.isDigit := by
    funext c
    simp [setContains, SetItem.contains, Category.contains]
  exact same ▸ takesOne_set

theorem reads_digits : digitsExpr.Reads IsDigits := reads_many takesOne_digit

theorem reads_sign : signExpr.Reads fun part => part = ['-'] ∨ part = [] :=
  (reads_one (takesOne_char '-')).optional.of_iff fun part => by simp

theorem reads_fraction : fractionExpr.Reads fun part =>
    (∃ decimals, part = '.' :: decimals ∧ IsDigits decimals) ∨ part = [] :=
  (((reads_one (takesOne_char '.')).seq reads_digits).group 1).optional.of_iff fun part => by simp

theorem reads_numeral : (Expr.seq signExpr (.seq digitsExpr fractionExpr)).Reads IsNumeral := by
  refine (reads_sign.seq (reads_digits.seq reads_fraction)).of_iff fun part => ?_
  constructor
  · rintro ⟨sign, _, rfl, signed, digits, _, rfl, valid, ⟨decimals, rfl, further⟩ | rfl⟩
    · rcases signed with rfl | rfl
      · exact .negative (.fraction valid further)
      · exact .plain (.fraction valid further)
    · rw [List.append_nil]
      rcases signed with rfl | rfl
      · exact .negative (.whole valid)
      · exact .plain (.whole valid)
  · have unsigned {text : List Char} : IsUnsigned text → ∃ digits rest, text = digits ++ rest ∧ IsDigits digits ∧
        ((∃ decimals, rest = '.' :: decimals ∧ IsDigits decimals) ∨ rest = []) := by
      rintro (valid | ⟨valid, further⟩)
      · exact ⟨text, [], by simp, valid, .inr rfl⟩
      · exact ⟨_, _, rfl, valid, .inl ⟨_, rfl, further⟩⟩
    rintro (plain | plain)
    · exact ⟨[], part, rfl, .inr rfl, unsigned plain⟩
    · exact ⟨['-'], _, rfl, .inl rfl, unsigned plain⟩

/-- A match from the start of a text takes a numeral, up to the end of the text or to a line feed there. -/
theorem step_numberExpr_isSome_iff {k : Spot → Option Spot} (goal : List Char → Prop)
    (follows : ∀ s, (k s).isSome = true ↔ goal s.after) (text : List Char) :
    (numberExpr.step k ⟨[], text, 0, []⟩).isSome = true ↔
      ∃ numeral rest, text = numeral ++ rest ∧ IsNumeral numeral ∧ (rest = [] ∨ rest = ['\n']) ∧ goal rest := by
  have ends (s : Spot) : ((Expr.place .ending).step k s).isSome = true ↔
      (s.after = [] ∨ s.after = ['\n']) ∧ goal s.after := by
    rw [step_place_isSome_iff, follows, Place.holds, Bool.or_eq_true, List.isEmpty_iff, beq_iff_eq]
  exact reads_numeral _ (fun rest => (rest = [] ∨ rest = ['\n']) ∧ goal rest) ends ⟨[], text, 0, []⟩

theorem matchAt?_numberExpr (text : List Char) :
    (numberExpr.matchAt? ⟨[], text, 0, []⟩).isSome = isNumberLine text := by
  rw [Expr.matchAt?, Option.isSome_map, Bool.eq_iff_iff, isNumberLine_iff,
    step_numberExpr_isSome_iff (fun _ => True) (by simp)]
  constructor
  · rintro ⟨numeral, rest, rfl, own, rfl | rfl, _⟩
    · exact .inl ((List.append_nil numeral).symm ▸ own)
    · exact .inr ⟨numeral, own, rfl⟩
  · rintro (own | ⟨numeral, own, split⟩)
    · exact ⟨text, [], (List.append_nil text).symm, own, .inl rfl, trivial⟩
    · exact ⟨numeral, ['\n'], split, own, .inr rfl, trivial⟩

theorem matchesWhole_numberExpr (text : List Char) : numberExpr.matchesWhole text = isNumber text := by
  have whole (s : Spot) : (if s.after.isEmpty then some s else none).isSome = true ↔ s.after = [] := by
    rw [← List.isEmpty_iff]
    split <;> simp [*]
  rw [Expr.matchesWhole, Bool.eq_iff_iff, isNumber_iff, step_numberExpr_isSome_iff (· = []) whole]
  constructor
  · rintro ⟨numeral, rest, rfl, own, _, rfl⟩
    exact (List.append_nil numeral).symm ▸ own
  · exact fun own => ⟨text, [], (List.append_nil text).symm, own, .inl rfl, rfl⟩

end Expression

def plainShape (text : List Char) : Shape := if text.contains ',' && !text.contains ' ' then .array else .string

/-- Whether a text has what its shape promises; lists and other texts promise nothing. -/
def Suits (text : List Char) : Shape → Prop
  | .boolean => text = "true".toList ∨ text = "false".toList
  | .number => isNumberLine text = true
  | .json => Json.isWritten text = .ok true
  | .array | .string | .other _ => True

section Inference
variable {text : List Char} {shape : Shape}

theorem suits_plainShape (text : List Char) : Suits text (plainShape text) := by
  rw [plainShape]
  split <;> exact trivial

theorem ofText_eq (text : List Char) : ofText text =
    if text.isEmpty then .ok none
    else if text == "true".toList || text == "false".toList then .ok (some .boolean)
    else if isNumberLine text then .ok (some .number)
    else if isBracketed text then
      Json.isWritten text >>= fun written => .ok (some (if written then .json else plainShape text))
    else .ok (some (plainShape text)) := by
  have plain : (if text.contains ',' && !text.contains ' ' then pure (some .array) else pure (some .string)) =
      (.ok (some (plainShape text)) : Except Failure (Option Shape)) := by
    rw [plainShape]
    split <;> rfl
  rw [ofText]
  simp only [plain]
  congr 4
  refine congrArg (Json.isWritten text >>= ·) (funext fun written => ?_)
  cases written <;> rfl

theorem suits_of_ofText (found : ofText text = .ok (some shape)) : Suits text shape := by
  rw [ofText_eq] at found
  split at found
  · cases found
  · split at found
    · next word =>
      cases found
      rw [Suits]
      simpa only [Bool.or_eq_true, beq_iff_eq] using word
    · split at found
      · next number =>
        cases found
        exact number
      · split at found
        · obtain ⟨written, read, made⟩ := Outcome.bind_eq_ok.mp found
          cases made
          cases written with
          | true => exact read
          | false => exact suits_plainShape text
        · cases found
          exact suits_plainShape text

theorem ofText_eq_number_iff : ofText text = .ok (some .number) ↔ isNumberLine text = true := by
  constructor
  · exact suits_of_ofText
  · intro number
    have filled : ¬ text.isEmpty = true := by
      rw [List.isEmpty_iff]
      rintro rfl
      cases number
    have other : ¬ (text == "true".toList || text == "false".toList) = true := by
      rw [Bool.or_eq_true, beq_iff_eq, beq_iff_eq]
      rintro (rfl | rfl) <;> exact absurd number (by decide)
    rw [ofText_eq, if_neg filled, if_neg other, if_pos number]

end Inference
end Shape

theorem ValueType.admits_number_iff {text : List Char} :
    ValueType.number.admits text = .ok true ↔ Shape.IsNumeral text := by
  rw [ValueType.admits, Except.ok.injEq, Shape.isNumber_iff]

namespace Mismatch
variable {declaration : Declaration} {usages : List Usage} {rule : Rule}

theorem complaint?_number_eq_none {name value shown usedAt : String} :
    complaint? name value shown usedAt .number = .ok none ↔ Shape.ofText value.toList = .ok (some .number) := by
  constructor
  · intro silent
    obtain ⟨shape, seen, rest⟩ := Outcome.bind_eq_ok.mp silent
    by_cases number : shape = some .number
    · exact number ▸ seen
    · simp [number, pure, Except.pure] at rest
  · exact fun seen => Outcome.bind_eq_ok.mpr ⟨_, seen, rfl⟩

theorem byUsages?_number_iff (counted : Shape.number.Leads (usages.filterMap (·.shape))) :
    byUsages? declaration usages = .ok none ↔
      declaration.value = "" ∨ Shape.ofText declaration.value.toList = .ok (some .number) := by
  obtain ⟨first, others, rfl⟩ : ∃ first others, usages = first :: others := by
    obtain ⟨usage, listed, _⟩ := List.mem_filterMap.mp counted.occurs
    exact List.exists_cons_of_ne_nil (List.ne_nil_of_mem listed)
  simp only [byUsages?, Shape.mostCommon_eq_some_iff.mpr counted]
  by_cases empty : declaration.value = ""
  · simp [empty]
  · simp only [beq_iff_eq, empty, if_false, false_or]
    rw [← complaint?_number_eq_none, Outcome.bind_eq_ok]
    constructor
    · rintro ⟨complaint, judged, rest⟩
      cases complaint with
      | none => exact judged
      | some complaint => cases rest
    · exact fun judged => ⟨none, judged, rfl⟩

theorem byRule?_eq_none :
    byRule? declaration rule = .ok none ↔ rule.constraints.violation? declaration.value = .ok none := by
  rw [byRule?, Outcome.bind_eq_ok]
  constructor
  · rintro ⟨violation, judged, rest⟩
    cases violation with
    | none => exact judged
    | some violation =>
      obtain ⟨_, _, same⟩ := Outcome.bind_eq_ok.mp rest
      cases same
  · exact fun judged => ⟨none, judged, rfl⟩

theorem byRule?_number_iff (demanded : rule.constraints = { type := some .number }) :
    byRule? declaration rule = .ok none ↔ Shape.IsNumeral declaration.value.toList := by
  rw [byRule?_eq_none, demanded, ← Shape.isNumber_iff, Constraints.violation?]
  simp only [Constraints.admitsType, ValueType.admits]
  cases Shape.isNumber declaration.value.toList with
  | true => exact iff_of_true rfl rfl
  | false => exact iff_of_false (fun same => by cases same) Bool.false_ne_true

theorem numeral_or_line_iff {text : List Char} :
    (Shape.IsNumeral text ∨ Shape.IsNumeralLine text ↔ Shape.IsNumeral text) ↔ ¬ Shape.IsNumeralLine text := by
  rw [or_iff_left_iff_imp]
  constructor
  · rintro same ⟨front, numeral, rfl⟩
    exact (same ⟨front, numeral, rfl⟩).getLast?_ne List.getLast?_concat
  · exact fun other line => absurd line other

/-- How a value is judged as a number by a rule and without one. A rule admits the numerals. A value is taken for a number
where it is a numeral or one with a line feed after it, and so the two judgements agree on all other values and on no
such line. The one asks for a match of the whole value and the other for a match at its start. What is taken for a truth
value or for JSON is admitted as one. A check of a value that is read as a number ends as that under a rule does, except
for an empty value, which is not checked without a rule, and for such lines. -/
structure JudgedAsNumber (value : String) : Prop where
  admitted : ValueType.number.admits value.toList = .ok true ↔ Shape.IsNumeral value.toList
  taken : Shape.ofText value.toList = .ok (some .number) ↔
    Shape.IsNumeral value.toList ∨ Shape.IsNumeralLine value.toList
  alike : (Shape.ofText value.toList = .ok (some .number) ↔ ValueType.number.admits value.toList = .ok true) ↔
    ¬ Shape.IsNumeralLine value.toList
  matched : ∃ pattern, Pattern.compile Shape.numberSetting = .ok pattern ∧
    (pattern.expr.matchesWhole value.toList = true ↔ ValueType.number.admits value.toList = .ok true) ∧
    ((pattern.expr.matchAt? ⟨[], value.toList, 0, []⟩).isSome = true ↔
      Shape.ofText value.toList = .ok (some .number))
  boolean : Shape.ofText value.toList = .ok (some .boolean) → ValueType.boolean.admits value.toList = .ok true
  json : Shape.ofText value.toList = .ok (some .json) → ValueType.json.admits value.toList = .ok true
  checks : ∀ (declaration : Declaration) (usages : List Usage) (rule : Rule), declaration.value = value →
    Shape.number.Leads (usages.filterMap (·.shape)) → rule.constraints = { type := some .number } →
    ((byUsages? declaration usages = .ok none ↔ byRule? declaration rule = .ok none) ↔
      value ≠ "" ∧ ¬ Shape.IsNumeralLine value.toList)

theorem numbers_judged_alike_iff (value : String) : JudgedAsNumber value := by
  have taken : Shape.ofText value.toList = .ok (some .number) ↔
      Shape.IsNumeral value.toList ∨ Shape.IsNumeralLine value.toList :=
    Shape.ofText_eq_number_iff.trans Shape.isNumberLine_iff
  refine ⟨ValueType.admits_number_iff, taken, ?_, ?_, ?_, ?_, ?_⟩
  · rw [taken, ValueType.admits_number_iff, numeral_or_line_iff]
  · refine ⟨_, Shape.compile_numberSetting, ?_, ?_⟩
    · rw [Shape.matchesWhole_numberExpr, Shape.isNumber_iff, ValueType.admits_number_iff]
    · rw [Shape.matchAt?_numberExpr, Shape.ofText_eq_number_iff]
  · intro found
    rcases Shape.suits_of_ofText found with word | word <;> rw [word] <;> rfl
  · exact Shape.suits_of_ofText
  · rintro declaration usages rule rfl counted demanded
    rw [byUsages?_number_iff counted, byRule?_number_iff demanded, taken]
    -- An empty value passes unchecked where code reads it, but a rule rejects it.
    by_cases empty : declaration.value = ""
    · have blank : ¬ Shape.IsNumeral declaration.value.toList := by
        rw [← Shape.isNumber_iff, empty]
        decide
      constructor
      · exact fun same => absurd (same.mp (.inl empty)) blank
      · exact fun filled => absurd empty filled.1
    · rw [or_iff_right empty, numeral_or_line_iff, and_iff_right empty]

def lineDeclaration : Declaration := { portDeclaration with value := "5\n" }

theorem numbers_judged_alike_iff_line_feed : Shape.ofText "5\n".toList = .ok (some .number) ∧
    ValueType.number.admits "5\n".toList ≠ .ok true ∧
    ¬ (byUsages? lineDeclaration [countingRead "PORT" 2] = .ok none ↔
      byRule? lineDeclaration { constraints := { type := some .number } } = .ok none) := by
  have numeral : Shape.IsNumeral ['5'] := Shape.isNumber_iff.mp rfl
  have line : Shape.IsNumeralLine "5\n".toList := ⟨['5'], numeral, rfl⟩
  have counted : Shape.number.Leads ([countingRead "PORT" 2].filterMap (·.shape)) :=
    Shape.mostCommon_eq_some_iff.mp rfl
  have judged := numbers_judged_alike_iff "5\n"
  have found := judged.taken.mpr (.inr line)
  exact ⟨found, fun admitted => judged.alike.mp ⟨fun _ => admitted, fun _ => found⟩ line,
    fun same => ((judged.checks lineDeclaration _ _ rfl counted rfl).mp same).2 line⟩

end Mismatch
end EnvAudit
