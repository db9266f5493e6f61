import EnvAudit.Audit
import EnvAudit.Project
import EnvAudit.Proofs.Outcome
import EnvAudit.Proofs.Text.Basic

/-! When an audit returns. Only two things stop it: a text that is read as JSON although it nests too deeply, and a
pattern that is too large or nests too deeply to compile, or contradicts itself. All other values and settings are
judged or passed over, so that an audit without these two returns. -/
namespace EnvAudit

namespace Json

/-- Whether brackets nest beyond the limit before anything else in a text is at fault. -/
def IsTooDeep (text : List Char) : Prop := read text = .error .tooDeep

theorem not_isTooDeep_nil : ¬ IsTooDeep [] := by
  rintro ⟨⟩

theorem isWritten_returns {text : List Char} : Returns (isWritten text) ↔ ¬ IsTooDeep text := by
  rw [isWritten, IsTooDeep]
  cases found : read text with
  | ok value => simp
  | error refusal => cases refusal <;> simp

theorem skipSpace_bracket {place : Cursor} {rest : List Char} (opening : place.rest = '[' :: rest) :
    place.skipSpace = place := by
  cases place with
  | mk text offset =>
    cases opening
    rfl

theorem readValue_brackets (depth bound : Nat) (place : Cursor) (rest : List Char)
    (opening : place.rest = List.replicate (depth + 1) '[' ++ rest) (room : 2 * depth < bound) :
    readValue depth bound place = .error .tooDeep := by
  induction depth generalizing bound place with
  | zero =>
    obtain ⟨bound, rfl⟩ := Nat.exists_eq_add_of_lt room
    rw [readValue, opening]
    rfl
  | succ depth ih =>
    -- A bracket takes one step for the list and one for its first item.
    obtain ⟨bound, rfl⟩ : ∃ n, bound = n + 2 := ⟨bound - 2, by omega⟩
    have inner : (place.skip 1).rest = List.replicate (depth + 1) '[' ++ rest := by
      rw [Cursor.skip, opening]
      rfl
    have head : (place.skip 1).rest.head? = some '[' := by rw [inner, List.replicate_succ]; rfl
    rw [List.replicate_succ, List.cons_append] at opening
    rw [readValue, opening]
    simp only
    rw [skipSpace_bracket (inner.trans (by rw [List.replicate_succ]; rfl)), head]
    have more : ¬ (some '[' == some ']') = true := by decide
    rw [if_neg more, readItems, ih bound _ inner (by omega)]
    rfl

theorem isTooDeep_brackets {count : Nat} (deep : nestingLimit < count) (rest : List Char) :
    IsTooDeep (List.replicate count '[' ++ rest) := by
  obtain ⟨further, rfl⟩ := Nat.exists_eq_add_of_lt deep
  have outer : List.replicate (nestingLimit + further + 1) '[' ++ rest =
      List.replicate (nestingLimit + 1) '[' ++ (List.replicate further '[' ++ rest) := by
    rw [← List.append_assoc, ← List.replicate_add, Nat.add_right_comm]
  have opening : List.replicate (nestingLimit + 1) '[' ++ (List.replicate further '[' ++ rest) =
      '[' :: (List.replicate nestingLimit '[' ++ (List.replicate further '[' ++ rest)) := by
    rw [List.replicate_succ, List.cons_append]
  rw [outer, IsTooDeep, read, if_neg (by rw [opening, List.head?_cons]; decide), skipSpace_bracket opening,
    readValue_brackets nestingLimit _ _ _ rfl (by simp; omega)]
  rfl

end Json

def Pattern.IsSurvivable (setting : String) : Prop :=
  ∀ fault, Pattern.ofSetting setting = .error fault → ∃ flaw position, fault = .flawed flaw position

theorem Pattern.tryCompile_returns {setting : String} :
    Returns (Pattern.tryCompile setting) ↔ Pattern.IsSurvivable setting := by
  rw [Pattern.tryCompile, Pattern.IsSurvivable]
  cases found : Pattern.ofSetting setting with
  | ok pattern => simp
  | error fault => cases fault <;> simp

namespace Shape

theorem head?_of_isNumber {text : List Char} (number : isNumber text = true) :
    ∃ c, text.head? = some c ∧ (c = '-' ∨ Text.isDigit c = true) := by
  cases text with
  | nil => simp [isNumber] at number
  | cons c rest =>
    refine ⟨c, rfl, ?_⟩
    by_cases minus : c = '-'
    · exact .inl minus
    · right
      by_contra other
      simp [isNumber, minus, other] at number

theorem head?_dropEnding {text : List Char} {c : Char} (head : text.head? = some c) (other : c ≠ '\n') :
    (Text.dropEnding ['\n'] text).head? = some c := by
  rw [Text.dropEnding]
  cases reversed : text.reverse with
  | nil => simpa [Text.dropStart?] using head
  | cons last before =>
    have split : text = before.reverse ++ [last] := by simpa using congrArg List.reverse reversed
    by_cases ending : last = '\n'
    · cases initial : before.reverse with
      | nil =>
        rw [split, initial, ending] at head
        exact absurd (Option.some.inj head).symm other
      | cons first others =>
        rw [split, initial] at head
        simpa [Text.dropStart?, ending, initial] using head
    · simpa [Text.dropStart?, Ne.symm ending] using head

theorem not_isNumberLine {text : List Char} (bracketed : isBracketed text = true) : isNumberLine text = false := by
  have opening : text.head? = some '\x7b' ∨ text.head? = some '[' := by
    simp only [isBracketed, Bool.or_eq_true, Bool.and_eq_true, beq_iff_eq] at bracketed
    exact bracketed.imp And.left And.left
  rw [isNumberLine, Bool.eq_false_iff]
  intro number
  obtain ⟨c, head, start⟩ := head?_of_isNumber number
  rcases opening with opening | opening
  all_goals
    rw [head?_dropEnding opening (by decide)] at head
    cases head
    simp [Text.isDigit] at start

theorem ofText_returns {text : List Char} :
    Returns (ofText text) ↔ (isBracketed text = true → ¬ Json.IsTooDeep text) := by
  rw [ofText]
  by_cases bracketed : isBracketed text = true
  · have filled : text.isEmpty = false := by
      cases text with
      | nil => simp [isBracketed] at bracketed
      | cons _ _ => rfl
    have other : (text == "true".toList || text == "false".toList) = false := by
      rw [Bool.eq_false_iff]
      intro word
      simp only [Bool.or_eq_true, beq_iff_eq] at word
      rcases word with rfl | rfl <;> simp [isBracketed] at bracketed
    -- Of the questions asked in turn, the first three are settled by the brackets.
    simp only [filled, other, not_isNumberLine bracketed, bracketed, Bool.false_eq_true, if_false, if_true,
      forall_const]
    refine (Outcome.returns_bind_iff ?_).trans Json.isWritten_returns
    intro written _
    cases written with
    | true => exact Outcome.returns_pure _
    | false =>
      rw [if_neg Bool.false_ne_true]
      split <;> exact Outcome.returns_pure _
  · simp only [bracketed, Bool.false_eq_true, if_false, false_implies, iff_true]
    repeat (split; exact Outcome.returns_pure _)
    exact Outcome.returns_pure _

/-- Whether a value can be held against a shape. A number is only looked for in a text in brackets after reading it. -/
def IsCheckable (shape : Shape) (value : String) : Prop :=
  match shape with
  | .number => isBracketed value.toList = true → ¬ Json.IsTooDeep value.toList
  | .json => ¬ Json.IsTooDeep value.toList
  | .string | .boolean | .array | .other _ => True

theorem isCheckable_empty (shape : Shape) : shape.IsCheckable "" := by
  cases shape <;> simp [IsCheckable, Json.not_isTooDeep_nil]

end Shape

namespace Constraints

/-- Whether a value can be checked under constraints. The pattern counts only for a value of the demanded type. -/
structure IsCheckable (c : Constraints) (value : String) : Prop where
  shallow : c.type = some .json → ¬ Json.IsTooDeep value.toList
  survivable : ∀ setting, c.activePattern? = some setting → c.admitsType value = .ok true →
    Pattern.IsSurvivable setting

theorem admitsType_returns {c : Constraints} {value : String} :
    Returns (c.admitsType value) ↔ (c.type = some .json → ¬ Json.IsTooDeep value.toList) := by
  rw [admitsType]
  cases c.type with
  | none => simp
  | some type => cases type <;> simp [ValueType.admits, Json.isWritten_returns]

theorem admitsPattern_returns {c : Constraints} {value : String} :
    Returns (c.admitsPattern value) ↔ ∀ setting, c.activePattern? = some setting → Pattern.IsSurvivable setting := by
  rw [admitsPattern]
  cases c.activePattern? with
  | none => simp
  | some setting =>
    simp only [Option.some.injEq, forall_eq']
    refine (Outcome.returns_bind_iff ?_).trans Pattern.tryCompile_returns
    intro compiled _
    cases compiled <;> exact Outcome.returns_pure _

theorem violation?_returns {c : Constraints} {value : String} :
    Returns (c.violation? value) ↔ c.IsCheckable value := by
  rw [violation?, Outcome.returns_bind]
  constructor
  · rintro ⟨admitted, typed, rest⟩
    refine ⟨admitsType_returns.mp ⟨admitted, typed⟩, ?_⟩
    intro setting active fits
    cases typed.symm.trans fits
    obtain ⟨_, matched, _⟩ := Outcome.returns_bind.mp rest
    exact admitsPattern_returns.mp ⟨_, matched⟩ setting active
  · rintro ⟨shallow, survivable⟩
    obtain ⟨admitted, typed⟩ := admitsType_returns.mpr shallow
    refine ⟨admitted, typed, ?_⟩
    cases admitted with
    | false => exact Outcome.returns_pure _
    | true =>
      have patterned : Returns (c.admitsPattern value) :=
        admitsPattern_returns.mpr fun setting active => survivable setting active typed
      refine (Outcome.returns_bind_iff ?_).mpr patterned
      intro fits _
      cases fits with
      | false => exact Outcome.returns_pure _
      | true =>
        rw [Bool.not_true, if_neg Bool.false_ne_true]
        split <;> exact Outcome.returns_pure _

theorem expectation?_of_violation? {c : Constraints} {value : String} {type : ValueType}
    (violated : c.violation? value = .ok (some (.type type))) :
    ∃ expectation, type.expectation? = some expectation := by
  rw [violation?, Outcome.bind_eq_ok] at violated
  obtain ⟨admitted, typed, rest⟩ := violated
  cases admitted with
  | false =>
    have demanded : c.type = some type := by simpa [pure, Except.pure] using rest
    rw [admitsType, demanded] at typed
    cases type <;> simp [ValueType.admits, ValueType.expectation?] at typed ⊢
  | true =>
    obtain ⟨fits, _, rest⟩ := Outcome.bind_eq_ok.mp rest
    cases fits with
    | false => simp [pure, Except.pure] at rest
    | true =>
      simp only [Bool.not_true, Bool.false_eq_true, if_false] at rest
      split at rest <;> simp [pure, Except.pure] at rest

end Constraints

namespace Mismatch

def IsComparable (declaration : Declaration) (usages : List Usage) : Prop :=
  ∀ shape, Shape.mostCommon (usages.filterMap (·.shape)) = some shape → shape.IsCheckable declaration.value

def IsCheckable (declared : List Declaration) (used : List Usage) (config : Config) (name : String) : Prop :=
  ∀ declaration, subject? declared config name = some declaration →
    match activeRule? config name with
    | some rule => rule.constraints.IsCheckable declaration.value
    | none => IsComparable declaration (usagesOf used name)

theorem byRule?_returns {declaration : Declaration} {rule : Rule} :
    Returns (byRule? declaration rule) ↔ rule.constraints.IsCheckable declaration.value := by
  refine (Outcome.returns_bind_iff ?_).trans Constraints.violation?_returns
  intro violation violated
  cases violation with
  | none => exact Outcome.returns_pure _
  | some violation =>
    refine (Outcome.returns_bind_iff fun _ _ => Outcome.returns_pure _).mpr ?_
    cases violation with
    | type type =>
      obtain ⟨expectation, expected⟩ := Constraints.expectation?_of_violation? violated
      rw [ofViolation, expected]
      exact Outcome.returns_ok _
    | pattern pattern => exact Outcome.returns_ok _
    | enum allowed => exact Outcome.returns_ok _

theorem complaint?_returns {name value shown usedAt : String} {shape : Shape} :
    Returns (complaint? name value shown usedAt shape) ↔ shape.IsCheckable value := by
  cases shape with
  | number =>
    refine (Outcome.returns_bind_iff ?_).trans Shape.ofText_returns
    intro shape _
    split <;> exact Outcome.returns_pure _
  | json =>
    refine (Outcome.returns_bind_iff ?_).trans Json.isWritten_returns
    intro written _
    split <;> exact Outcome.returns_pure _
  | boolean =>
    simp only [complaint?, Shape.IsCheckable, iff_true]
    split <;> exact Outcome.returns_pure _
  | array =>
    simp only [complaint?, Shape.IsCheckable, iff_true]
    split <;> exact Outcome.returns_pure _
  | string => simp [complaint?, Shape.IsCheckable]
  | other name => simp [complaint?, Shape.IsCheckable]

theorem byUsages?_returns {declaration : Declaration} {usages : List Usage} :
    Returns (byUsages? declaration usages) ↔ IsComparable declaration usages := by
  rw [IsComparable]
  cases usages with
  | nil => simp [byUsages?, Shape.mostCommon, Text.distinct]
  | cons first others =>
    cases suggested : Shape.mostCommon ((first :: others).filterMap (·.shape)) with
    | none => simp [byUsages?, suggested]
    | some shape =>
      simp only [byUsages?, suggested, Option.some.injEq, forall_eq']
      by_cases empty : declaration.value = ""
      · simp [empty, Shape.isCheckable_empty]
      · simp only [beq_iff_eq, empty, if_false]
        refine (Outcome.returns_bind_iff ?_).trans complaint?_returns
        intro complaint _
        cases complaint <;> exact Outcome.returns_pure _

variable {declared : List Declaration} {used : List Usage} {config : Config}

theorem ofName?_returns {name : String} :
    Returns (ofName? declared used config name) ↔ IsCheckable declared used config name := by
  rw [ofName?, IsCheckable]
  cases subject? declared config name with
  | none => simp
  | some declaration =>
    simp only [Option.some.injEq, forall_eq']
    cases activeRule? config name with
    | none => exact byUsages?_returns
    | some rule => exact byRule?_returns

theorem issues_returns :
    Returns (issues declared used config) ↔ ∀ name ∈ readNames used, IsCheckable declared used config name := by
  simp only [← ofName?_returns]
  rw [← Outcome.mapM_returns]
  exact Outcome.returns_bind_iff fun _ _ => Outcome.returns_pure _

end Mismatch

theorem Exposure.issues_returns {declared : List Declaration} {config : Config} :
    Returns (Exposure.issues declared config) ↔ ∀ setting ∈ config.secretPatterns, Pattern.IsSurvivable setting := by
  simp only [← Pattern.tryCompile_returns]
  rw [← Outcome.mapM_returns]
  refine (Outcome.returns_bind_iff fun _ _ => Outcome.returns_pure _).trans ?_
  exact Outcome.returns_bind_iff fun _ _ => Outcome.returns_pure _

namespace Audit

structure Input where
  declared : List Declaration := []
  used : List Usage := []
  config : Config := {}
  template : Option (List Declaration) := none
  framework : Option Framework := none

namespace Input

def issues (input : Input) : Except Failure (List Issue) :=
  (run input.declared input.used input.config input.template input.framework).outcome.1

/-- Whether nothing stops an audit. -/
structure Completes (input : Input) : Prop where
  patterns : ∀ setting ∈ input.config.secretPatterns, Pattern.IsSurvivable setting
  values : ∀ name ∈ Mismatch.readNames input.used,
    Mismatch.IsCheckable input.declared input.used input.config name

theorem issues_eq (input : Input) :
    input.issues = Audit.issues input.declared input.used input.config input.template input.framework := by
  rw [issues, run, Logged.outcome, Logged.run_bind_ok (Logged.run_reports ..),
    Logged.run_bind_ok (Logged.run_reports ..)]
  cases Audit.issues input.declared input.used input.config input.template input.framework with
  | error failure => rfl
  | ok found => rfl

theorem issues_eq_ok {input : Input} {found : List Issue} : input.issues = .ok found ↔
    ∃ mismatched exposed, Mismatch.issues input.declared input.used input.config = .ok mismatched ∧
      Exposure.issues input.declared input.config = .ok exposed ∧
      found = Missing.issues input.declared input.used input.config
        ++ Unused.issues input.declared input.used input.config input.framework ++ mismatched ++ exposed
        ++ driftIssues input.declared input.config input.template := by
  rw [issues_eq, Audit.issues, Outcome.bind_eq_ok]
  constructor
  · rintro ⟨mismatched, checked, rest⟩
    obtain ⟨exposed, searched, same⟩ := Outcome.bind_eq_ok.mp rest
    cases same
    exact ⟨mismatched, exposed, checked, searched, rfl⟩
  · rintro ⟨mismatched, exposed, checked, searched, rfl⟩
    exact ⟨mismatched, checked, Outcome.bind_eq_ok.mpr ⟨exposed, searched, rfl⟩⟩

theorem issues_returns {input : Input} : Returns input.issues ↔ input.Completes := by
  constructor
  · rintro ⟨found, ok⟩
    obtain ⟨mismatched, exposed, checked, searched, _⟩ := issues_eq_ok.mp ok
    exact ⟨Exposure.issues_returns.mp ⟨exposed, searched⟩, Mismatch.issues_returns.mp ⟨mismatched, checked⟩⟩
  · rintro ⟨patterns, values⟩
    obtain ⟨mismatched, checked⟩ := Mismatch.issues_returns.mpr values
    obtain ⟨exposed, searched⟩ := Exposure.issues_returns.mpr patterns
    exact ⟨_, issues_eq_ok.mpr ⟨mismatched, exposed, checked, searched, rfl⟩⟩

end Input
end Audit
end EnvAudit

/-! What the findings of an audit come from. An audit of a project that returns has read the declaration files and
scanned the sources, and it has judged what these gave. -/
namespace EnvAudit.Project
open Logged

theorem parts_of_audit {disk : Disk} {config : Config} {findings : Findings}
    (gives : Gives (audit disk config) findings) :
    ∃ found framework survey template,
      Gives (Declaration.readFiles disk (.ofString config.root) config.declarationFiles) found ∧
      Gives (Usage.survey disk (.ofString config.root) config.sources config.exclude framework false) survey ∧
      findings.declared = found.declared ∧ findings.usages = survey.usages ∧
      (⟨found.declared, survey.usages, config, template, some framework⟩ : Audit.Input).issues =
        .ok findings.issues ∧
      findings.template = template := by
  obtain ⟨framework, _, gives⟩ := gives.of_bind
  obtain ⟨_, _, gives⟩ := gives.of_bind
  obtain ⟨found, read, gives⟩ := gives.of_bind
  obtain ⟨_, _, gives⟩ := gives.of_bind
  obtain ⟨template, _, gives⟩ := gives.of_bind
  obtain ⟨survey, scanned, gives⟩ := gives.of_bind
  obtain ⟨issues, judged, gives⟩ := gives.of_bind
  obtain ⟨_, _, gives⟩ := gives.of_bind
  cases (yields_pure _).eq_ok gives
  obtain ⟨_, _, judged⟩ := judged.of_bind
  obtain ⟨_, _, judged⟩ := judged.of_bind
  obtain ⟨issues', made, judged⟩ := judged.of_bind
  obtain ⟨_, _, judged⟩ := judged.of_bind
  cases (yields_pure _).eq_ok judged
  refine ⟨found, framework, survey, template, read, scanned, rfl, rfl, ?_, rfl⟩
  exact (Audit.Input.issues_eq _).trans ((yields_lift _).eq_ok made)

end EnvAudit.Project
