import EnvAudit.Proofs.Text.Cutting
import EnvAudit.Script.Token
import EnvAudit.Usage.Fallback

/-! What is found in sources without a tree. A direct read is reported wherever an object of the variables, a period and
a name in capitals are written one after another, whatever stands on their left and right. Such a read is a whole one
exactly when no name touches it there. -/
namespace EnvAudit.Usage.Fallback

def openingOf : Chain → String
  | .server => "process.env."
  | .client => "import.meta.env."

structure IsCut (name after : List Char) : Prop where
  begins : ∃ c ∈ name.head?, beginsName c = true
  continues : ∀ c ∈ name, continuesName c = true
  longest : ∀ c ∈ after.head?, continuesName c = false

/-- A place in a source where a read is written, with the text of its line on both sides. Lines count from zero. -/
structure Occurrence (source : List Char) where
  chain : Chain
  index : Nat
  before : List Char
  name : List Char
  after : List Char
  written : (Text.lines source)[index]? = some (before ++ (openingOf chain).toList ++ name ++ after)
  cut : IsCut name after

def directRead (site : Site) (chain : Chain) (line column : Nat) (name : String) : Usage :=
  { name, file := site.file, line, column, access := .direct, isClientSide := site.isClientSide chain name }

def Occurrence.usage {source : List Char} (site : Site) (o : Occurrence source) : Usage :=
  directRead site o.chain (o.index + 1) o.before.length (String.ofList o.name)

def isIdentifierChar (c : Char) : Bool := Text.isWordChar c || c == '$'

/-- Whether nothing that could belong to a read stands next to a text. -/
structure IsBounded (before after : List Char) : Prop where
  left : ∀ c ∈ before.getLast?, isIdentifierChar c = false ∧ c ≠ '.'
  right : ∀ c ∈ after.head?, isIdentifierChar c = false

/-- Whether a usage is at its place a read of just its variable. -/
def IsWhole (source : List Char) (usage : Usage) : Prop :=
  ∃ chain index before after,
    (Text.lines source)[index]? = some (before ++ (openingOf chain).toList ++ usage.name.toList ++ after) ∧
    usage.line = index + 1 ∧ usage.column = before.length ∧ IsBounded before after

section Reading
variable {text name : List Char}

theorem name?_eq_some_iff : name? text = some name ↔ ∃ after, text = name ++ after ∧ IsCut name after := by
  constructor
  · intro found
    cases text with
    | nil => cases found
    | cons c rest =>
      rw [name?] at found
      split at found
      · next begins =>
        cases found
        have continues : continuesName c = true := by simp [continuesName, begins]
        refine ⟨(c :: rest).dropWhile continuesName, List.takeWhile_append_dropWhile.symm, ?_, ?_, ?_⟩
        · exact ⟨c, by simp [List.takeWhile_cons_of_pos continues], begins⟩
        · exact fun d member => List.mem_takeWhile_imp member
        · intro d first
          have stopped := List.head?_dropWhile_not continuesName (c :: rest)
          rw [Option.mem_def.mp first] at stopped
          exact stopped
      · cases found
  · rintro ⟨after, rfl, ⟨c, first, begins⟩, continues, longest⟩
    cases name with
    | nil => cases first
    | cons d rest =>
      cases first
      have stopped : after.takeWhile continuesName = [] := by
        cases after with
        | nil => rfl
        | cons e after => exact List.takeWhile_cons_of_neg (by simpa using longest e rfl)
      rw [List.cons_append, name?, if_pos begins, ← List.cons_append, List.takeWhile_append_of_pos continues, stopped,
        List.append_nil]

theorem readAfter?_eq_some_iff {opening : String} : readAfter? opening text = some name ↔
    ∃ after, text = opening.toList ++ name ++ after ∧ IsCut name after := by
  rw [readAfter?, Option.bind_eq_some_iff]
  constructor
  · rintro ⟨rest, dropped, found⟩
    obtain ⟨after, rfl, cut⟩ := name?_eq_some_iff.mp found
    exact ⟨after, by rw [Text.eq_append_of_dropStart? dropped, List.append_assoc], cut⟩
  · rintro ⟨after, rfl, cut⟩
    rw [List.append_assoc, Text.dropStart?_append]
    exact ⟨_, rfl, name?_eq_some_iff.mpr ⟨after, rfl, cut⟩⟩

theorem mem_readsFrom_iff {read? : List Char → Option (List Char)} (atEnd : read? [] = none) {column : Nat}
    {read : String × Nat} : read ∈ readsFrom read? column text ↔
      ∃ before rest, text = before ++ rest ∧ read.2 = column + before.length ∧ read? rest = some read.1.toList := by
  induction text generalizing column with
  | nil =>
    refine ⟨fun member => absurd member List.not_mem_nil, ?_⟩
    rintro ⟨before, rest, empty, _, found⟩
    rw [(List.nil_eq_append_iff.mp empty).2, atEnd] at found
    cases found
  | cons c rest ih =>
    have split : read ∈ readsFrom read? column (c :: rest) ↔
        (read.2 = column ∧ read? (c :: rest) = some read.1.toList) ∨ read ∈ readsFrom read? (column + 1) rest := by
      obtain ⟨name, position⟩ := read
      rw [readsFrom]
      split
      · next found =>
        rw [List.mem_cons, Prod.mk.injEq, found, Option.some.injEq]
        refine or_congr_left ⟨?_, ?_⟩
        · rintro ⟨rfl, rfl⟩
          exact ⟨rfl, String.toList_ofList.symm⟩
        · rintro ⟨rfl, rfl⟩
          exact ⟨String.ofList_toList.symm, rfl⟩
      · next missed => simp [missed]
    rw [split, ih]
    constructor
    · rintro (⟨here, found⟩ | ⟨before, others, rfl, there, found⟩)
      · exact ⟨[], c :: rest, rfl, here, found⟩
      · exact ⟨c :: before, others, rfl, by rw [there, List.length_cons]; omega, found⟩
    · rintro ⟨before, others, written, there, found⟩
      cases before with
      | nil => exact .inl ⟨there, by rw [written]; exact found⟩
      | cons d before =>
        rw [List.cons_append, List.cons.injEq] at written
        obtain ⟨rfl, rfl⟩ := written
        refine .inr ⟨before, others, rfl, ?_, found⟩
        rw [there, List.length_cons]
        omega

end Reading

section Places
variable {source : List Char} {site : Site} {usage : Usage}

theorem mem_usagesOf_iff {line : Nat} {text : List Char} {chain : Chain} {opening : String} :
    usage ∈ usagesOf site line text .direct chain (readAfter? opening) ↔ ∃ before name after,
      text = before ++ opening.toList ++ name ++ after ∧ IsCut name after ∧
      directRead site chain line before.length (String.ofList name) = usage := by
  have atEnd : readAfter? opening [] = none := by
    rw [readAfter?]
    cases opening.toList <;> rfl
  rw [usagesOf, List.mem_map]
  constructor
  · rintro ⟨⟨name, column⟩, listed, rfl⟩
    obtain ⟨before, rest, rfl, there, found⟩ := (mem_readsFrom_iff atEnd).mp listed
    obtain ⟨after, rfl, cut⟩ := readAfter?_eq_some_iff.mp found
    refine ⟨before, name.toList, after, by simp, cut, ?_⟩
    rw [String.ofList_toList, show before.length = column by simpa using there.symm]
    rfl
  · rintro ⟨before, name, after, rfl, cut, rfl⟩
    refine ⟨(String.ofList name, before.length), (mem_readsFrom_iff atEnd).mpr ?_, rfl⟩
    refine ⟨before, opening.toList ++ name ++ after, by simp, (Nat.zero_add _).symm, ?_⟩
    exact readAfter?_eq_some_iff.mpr ⟨after, by rw [String.toList_ofList], by rwa [String.toList_ofList]⟩

theorem mem_ofLine_iff {line : Nat} {text : List Char} :
    usage ∈ ofLine site line text ∧ usage.access = .direct ↔ ∃ chain before name after,
      text = before ++ (openingOf chain).toList ++ name ++ after ∧ IsCut name after ∧
      directRead site chain line before.length (String.ofList name) = usage := by
  rw [ofLine, List.mem_append, List.mem_append, mem_usagesOf_iff, mem_usagesOf_iff]
  constructor
  · rintro ⟨(server | bracket) | client, direct⟩
    · exact ⟨.server, server⟩
    · obtain ⟨read, _, rfl⟩ := List.mem_map.mp bracket
      cases direct
    · exact ⟨.client, client⟩
  · rintro ⟨chain, before, name, after, written, cut, rfl⟩
    refine ⟨?_, rfl⟩
    cases chain with
    | server => exact .inl (.inl ⟨before, name, after, written, cut, rfl⟩)
    | client => exact .inr ⟨before, name, after, written, cut, rfl⟩

theorem mem_usages_iff : usage ∈ usages site source ∧ usage.access = .direct ↔
    ∃ o : Occurrence source, o.usage site = usage := by
  constructor
  · rintro ⟨member, direct⟩
    obtain ⟨⟨text, index⟩, listed, member⟩ := List.mem_flatMap.mp member
    obtain ⟨chain, before, name, after, rfl, cut, rfl⟩ := mem_ofLine_iff.mp ⟨member, direct⟩
    exact ⟨⟨chain, index, before, name, after, List.mem_zipIdx_iff_getElem?.mp listed, cut⟩, rfl⟩
  · rintro ⟨⟨chain, index, before, name, after, written, cut⟩, rfl⟩
    refine ⟨List.mem_flatMap.mpr ⟨(_, index), List.mem_zipIdx_iff_getElem?.mpr written, ?_⟩, rfl⟩
    exact (mem_ofLine_iff.mpr ⟨chain, before, name, after, rfl, cut, rfl⟩).1

/-- The openings differ in their first letters, so a place belongs to one chain only. -/
theorem isWhole_iff (o : Occurrence source) : IsWhole source (o.usage site) ↔ IsBounded o.before o.after := by
  constructor
  · rintro ⟨chain, index, before, after, written, line, column, bounded⟩
    obtain rfl : o.index = index := Nat.succ.inj line
    have same := Option.some.inj (o.written.symm.trans written)
    rw [Occurrence.usage, directRead, String.toList_ofList, List.append_assoc, List.append_assoc, List.append_assoc,
      List.append_assoc] at same
    obtain ⟨rfl, opened⟩ := List.append_inj same column
    have rest : o.name ++ o.after = o.name ++ after := by
      cases own : o.chain <;> cases chain <;> rw [own] at opened
      · exact List.append_cancel_left opened
      · exact absurd (List.cons.inj opened).1 (by decide)
      · exact absurd (List.cons.inj opened).1 (by decide)
      · exact List.append_cancel_left opened
    exact List.append_cancel_left rest ▸ bounded
  · intro bounded
    refine ⟨o.chain, o.index, o.before, o.after, ?_, rfl, rfl, bounded⟩
    rw [Occurrence.usage, directRead, String.toList_ofList]
    exact o.written

end Places

section Tokens

theorem nameTailLength_append {name : List Char} (continues : ∀ c ∈ name, Script.continuesName c = true)
    (after : List Char) :
    Script.nameTailLength 0 (name ++ after) = name.length + Script.nameTailLength 0 after := by
  induction name with
  | nil => exact (Nat.zero_add _).symm
  | cons c name ih =>
    obtain ⟨first, others⟩ := List.forall_mem_cons.mp continues
    rw [List.cons_append, Script.nameTailLength, if_pos first, ih others, List.length_cons]
    omega

theorem script_beginsName {c : Char} (begins : beginsName c = true) : Script.beginsName c = true := by
  have listed : ∀ n < 128, beginsName (Char.ofNat n) = true → Script.beginsName (Char.ofNat n) = true := by
    decide +kernel
  have small : c.toNat < 128 := by
    rw [beginsName, Bool.or_eq_true, Bool.and_eq_true, decide_eq_true_eq, decide_eq_true_eq, beq_iff_eq] at begins
    rcases begins with ⟨_, upper⟩ | rfl
    · exact Nat.lt_of_le_of_lt upper (by decide)
    · decide
  rw [← Char.ofNat_toNat c] at begins ⊢
  exact listed c.toNat small begins

theorem script_continuesName {c : Char} (continues : continuesName c = true) : Script.continuesName c = true := by
  rw [continuesName, Bool.or_eq_true] at continues
  rw [Script.continuesName, Bool.or_eq_true]
  exact continues.imp_left script_beginsName

theorem IsCut.nameLength {name after : List Char} (cut : IsCut name after) :
    Script.nameLength (name ++ after) = name.length + Script.nameTailLength 0 after := by
  obtain ⟨⟨c, first, begins⟩, continues, _⟩ := cut
  cases name with
  | nil => cases first
  | cons d rest =>
    cases first
    rw [← nameTailLength_append fun e member => script_continuesName (continues e member)]
    rw [List.cons_append, Script.nameLength, script_beginsName begins]
    rfl

end Tokens

/-- The direct reads that are reported are those that are written somewhere, each whole exactly where no name or period
touches it. The name that a script has there goes on as far as what comes after can continue it. -/
theorem direct_exact (site : Site) (source : List Char) :
    (∀ usage, usage ∈ usages site source ∧ usage.access = .direct ↔ ∃ o : Occurrence source, o.usage site = usage) ∧
    (∀ o : Occurrence source, IsWhole source (o.usage site) ↔ IsBounded o.before o.after) ∧
    ((∀ usage ∈ usages site source, usage.access = .direct → IsWhole source usage) ↔
      ∀ o : Occurrence source, IsBounded o.before o.after) ∧
    ∀ o : Occurrence source,
      Script.nameLength (o.name ++ o.after) = o.name.length + Script.nameTailLength 0 o.after := by
  refine ⟨fun _ => mem_usages_iff, isWhole_iff, ?_, fun o => o.cut.nameLength⟩
  constructor
  · intro whole o
    obtain ⟨member, direct⟩ := mem_usages_iff.mpr ⟨o, rfl⟩
    exact (isWhole_iff o).mp (whole (o.usage site) member direct)
  · intro bounded usage member direct
    obtain ⟨o, rfl⟩ := mem_usages_iff.mp ⟨member, direct⟩
    exact (isWhole_iff o).mpr (bounded o)

def embeddedRead : Occurrence "myprocess.env.FOO".toList where
  chain := .server
  index := 0
  before := ['m', 'y']
  name := ['F', 'O', 'O']
  after := []
  written := by decide
  cut := ⟨⟨'F', rfl, by decide⟩, List.all_eq_true.mp (by decide), by simp⟩

/-- The end of another object's name counts as the object, so a read is reported that is none. -/
theorem direct_exact_embedded : ∃ usage ∈ usages ⟨"src/index.ts", .node⟩ "myprocess.env.FOO".toList,
    usage.access = .direct ∧ ¬ IsWhole "myprocess.env.FOO".toList usage := by
  obtain ⟨reported, whole, _⟩ := direct_exact ⟨"src/index.ts", .node⟩ "myprocess.env.FOO".toList
  obtain ⟨member, direct⟩ := (reported _).mpr ⟨embeddedRead, rfl⟩
  refine ⟨_, member, direct, fun isWhole => ?_⟩
  have left := ((whole embeddedRead).mp isWhole).left 'y' rfl
  exact absurd left.1 (by decide)

example (site : Site) : (usages site "process.env.FOObar".toList).map (fun usage => (usage.name, usage.column)) =
    [("FOO", 0)] := by
  rfl

end EnvAudit.Usage.Fallback
