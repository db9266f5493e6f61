import EnvAudit.Proofs.Declaration.Commenting
import EnvAudit.Proofs.Declaration.Merging
import EnvAudit.Proofs.Template.Regeneration
import Mathlib.Data.List.MinMax

/-! Templates with values. A template that shows the values as they are is read back with all of them exactly when each
value is bare: on one line, without blanks at its ends, not between quotes and without a comment. Of the values that
have several lines the longest is never read back, since each of their lines is only a part of one of them. -/
namespace EnvAudit.Declaration

/-- Whether a value is read as it is when it stands after an equals sign. -/
structure IsBare (value : List Char) : Prop where
  single : '\n' ∉ value
  starts : ∀ c ∈ value.head?, Text.isBlank c = false
  ends : ∀ c ∈ value.getLast?, Text.isBlank c = false
  unquoted : ¬ IsQuoted value
  uncommented : ¬ " #".toList <:+: value

theorem withoutComment_eq_self_iff {text : List Char} : withoutComment text = text ↔ ¬ " #".toList <:+: text := by
  unfold withoutComment
  rw [← Text.find?_eq_none_iff]
  split
  · next distance found =>
    rw [found]
    refine iff_of_false (fun same => ?_) (by simp)
    obtain ⟨before, after, rfl, rfl⟩ := Text.eq_append_of_find? found
    have front : (before ++ " #".toList ++ after).take before.length = before := by
      rw [List.append_assoc, List.take_left]
    have fits := (Text.trim_isInfix before).length_le
    have sign : " #".toList.length = 2 := rfl
    rw [front] at same
    rw [same, List.length_append, List.length_append, sign] at fits
    omega
  · next absent => exact iff_of_true rfl absent

theorem length_valueOf_lt {text : List Char} (quoted : IsQuoted (Text.trim text)) :
    (valueOf text).length < (Text.trim text).length := by
  obtain ⟨quote, inner, written⟩ := quoted
  have shorter := quote.length_read_le inner
  rw [valueOf_quoted written, written, List.length_cons, List.length_append]
  omega

theorem length_valueOf_le (text : List Char) : (valueOf text).length ≤ text.length := by
  refine le_trans ?_ (Text.trim_isInfix text).length_le
  by_cases quoted : IsQuoted (Text.trim text)
  · exact (length_valueOf_lt quoted).le
  · rw [valueOf_bare quoted]
    exact (withoutComment_isInfix _).length_le

theorem isBare_iff {value : List Char} : IsBare value ↔ '\n' ∉ value ∧ valueOf value = value := by
  constructor
  · intro bare
    have trimmed := Text.trim_eq_self_iff.mpr ⟨bare.starts, bare.ends⟩
    refine ⟨bare.single, ?_⟩
    rw [valueOf_bare (trimmed.symm ▸ bare.unquoted), trimmed, withoutComment_eq_self_iff]
    exact bare.uncommented
  · rintro ⟨single, kept⟩
    have fits := (Text.trim_isInfix value).length_le
    have unquoted : ¬ IsQuoted (Text.trim value) := by
      intro quoted
      have shorter := length_valueOf_lt quoted
      rw [kept] at shorter
      omega
    have read := valueOf_bare unquoted
    have shorter := (withoutComment_isInfix (Text.trim value)).length_le
    rw [← read, kept] at shorter
    have trimmed := (Text.trim_isInfix value).eq_of_length (Nat.le_antisymm fits shorter)
    rw [trimmed] at read unquoted
    obtain ⟨starts, ends⟩ := Text.trim_eq_self_iff.mp trimmed
    exact ⟨single, starts, ends, unquoted, withoutComment_eq_self_iff.mp (read.symm.trans kept)⟩

instance : DecidablePred IsBare := fun _ => decidable_of_iff' _ isBare_iff

theorem length_statement_le (line : List Char) : (statement line).length ≤ line.length := by
  have fits := (Text.trim_isInfix line).length_le
  rw [statement]
  cases found : Text.dropStart? "export ".toList (Text.trim line) with
  | none => exact fits
  | some rest => exact (Text.suffix_of_dropStart? found).length_le.trans fits

theorem length_of_readLine {line name value : List Char} (reads : readLine line = .assignment name value) :
    value.length ≤ line.length := by
  obtain ⟨text, assigns, rfl⟩ := assigns_of_readLine reads
  obtain ⟨before, _, _, written⟩ := assigns.written
  have whole := length_statement_le line
  have fits := length_valueOf_le text
  rw [written, List.length_append, List.length_cons] at whole
  omega

/-- The values of declarations that were read can be judged again. -/
theorem shallow_of_ofLines {file : String} {number : Nat} {lines : List (List Char)} {result : Declarations}
    (ok : ofLines file number lines = .ok result) {declaration : Declaration} (member : declaration ∈ result.declared) :
    Shape.isBracketed declaration.value.toList = true → ¬ Json.IsTooDeep declaration.value.toList := by
  obtain ⟨_, index, line, _, placed, read⟩ := standsAmong_of_ofLines ok member
  obtain ⟨text, assigns, value⟩ := assigns_of_readLine read.reads
  have judgeable := ofLines_returns.mp ⟨result, ok⟩ line (List.mem_of_getElem? placed)
  rw [value]
  exact judgeable _ text assigns

theorem mem_of_value? {declarations : List Declaration} {name value : String}
    (declared : value? (keepLast declarations) name = some value) :
    ∃ declaration ∈ declarations, declaration.name = name ∧ declaration.value = value := by
  obtain ⟨declaration, found, same⟩ := Option.map_eq_some_iff.mp declared
  have named := List.find?_some found
  exact ⟨declaration, mem_of_mem_keepLast (List.mem_of_find?_eq_some found), by simpa using named, same⟩

theorem value?_of_mem {declarations : List Declaration} (distinct : (names declarations).Nodup)
    {declaration : Declaration} (member : declaration ∈ declarations) :
    value? (keepLast declarations) declaration.name = some declaration.value := by
  rw [← survive_iff.mp (Survive.of_nodup distinct)]
  cases found : find? declarations declaration.name with
  | none =>
    have absent := List.find?_eq_none.mp found declaration member
    simp at absent
  | some own =>
    have named : own.name = declaration.name := by simpa using List.find?_some found
    have same : own = declaration := List.inj_on_of_nodup_map distinct (List.mem_of_find?_eq_some found) member named
    rw [value?, found, same]
    rfl

end EnvAudit.Declaration

namespace EnvAudit.Template
open Declaration

theorem shownValue_unmasked (declaration : Declaration) : shownValue false declaration = declaration.value := by
  rw [shownValue]
  split
  · next empty => exact (beq_iff_eq.mp empty).symm
  · rfl

section Lines
variable {declarations : List Declaration} {declaration : Declaration} {line name value : List Char}

/-- What a line of a written variable assigns is shorter than its value, unless the value ends no line. -/
theorem eq_or_shorter_of_lineOf (valid : isName declaration.name.toList = true)
    (part : line ∈ Text.lines (lineOf false declaration).toList) (reads : readLine line = .assignment name value) :
    ('\n' ∉ declaration.value.toList ∧ name = declaration.name.toList) ∨
    ('\n' ∈ declaration.value.toList ∧ value.length < declaration.value.toList.length) := by
  have written : (lineOf false declaration).toList =
      ({} : Layout).line declaration.name.toList declaration.value.toList := by
    rw [lineOf_eq, shownValue_unmasked]
  have read (text : List Char) : readLine (({} : Layout).line declaration.name.toList text) =
      .assignment declaration.name.toList (valueOf text) :=
    Layout.readLine_line valid (Layout.not_hides_plain _) text
  by_cases cut : '\n' ∈ declaration.value.toList
  · refine .inr ⟨cut, ?_⟩
    have front (text : List Char) : ({} : Layout).line declaration.name.toList text =
        (declaration.name.toList ++ ['=']) ++ text := by
      simp [Layout.line, Layout.front]
    have whole : '\n' ∉ declaration.name.toList ++ ['='] := by
      have empty : '\n' ∉ ({} : Layout).line declaration.name.toList [] := Layout.not_mem_line valid List.not_mem_nil
      rwa [front, List.append_nil] at empty
    obtain ⟨first, others, own, all⟩ := Text.pieces_append_left whole declaration.value.toList
    rw [written, front, Text.lines, all, ← front] at part
    have short {piece : List Char} (member : piece ∈ first :: others) :
        piece.length < declaration.value.toList.length := Text.length_lt_of_mem_pieces cut (own ▸ member)
    rcases List.mem_cons.mp part with rfl | later
    · have same := reads.symm.trans (read first)
      injection same with _ same
      rw [same]
      exact (length_valueOf_le first).trans_lt (short List.mem_cons_self)
    · exact (length_of_readLine reads).trans_lt (short (List.mem_cons_of_mem _ later))
  · refine .inl ⟨cut, ?_⟩
    rw [written, Text.lines, Text.pieces_of_not_mem (Layout.not_mem_line valid cut), List.mem_singleton] at part
    have same := reads.symm.trans (part ▸ read _)
    injection same

theorem Writes.origin {masks : Bool} {lines : List String} (writes : Writes masks lines declarations)
    (part : line ∈ lines.flatMap fun own => Text.lines own.toList) (reads : readLine line = .assignment name value) :
    ∃ d ∈ declarations, isName d.name.toList = true ∧ line ∈ Text.lines (lineOf masks d).toList := by
  induction writes with
  | done => cases part
  | silent silent inline _ ih =>
    rw [List.flatMap_cons, Text.lines, Text.pieces_of_not_mem inline, List.mem_append, List.mem_singleton] at part
    rcases part with rfl | later
    · rw [readLine_of_silent silent] at reads
      cases reads
    · exact ih later
  | assignment valid _ ih =>
    rw [List.flatMap_cons, List.mem_append] at part
    rcases part with own | later
    · exact ⟨_, List.mem_cons_self, valid, own⟩
    · obtain ⟨d, member, named, inside⟩ := ih later
      exact ⟨d, List.mem_cons_of_mem _ member, named, inside⟩

end Lines

/-- Whether a text is read without a fault and declares every one of some variables as its value. -/
def Keeps (text : List Char) (label : String) (declarations : List Declaration) : Prop :=
  ∃ again, parse text label = .ok again ∧ again.faults = [] ∧
    ∀ d ∈ declarations, value? (keepLast again.declared) d.name = some d.value

section Values
variable {declarations declared : List Declaration} {options : Options} {label : String}

/-- A template that keeps the values has none of several lines: the longest of them would be read from a line that is
part of a value, and so of a longer one. -/
theorem Keeps.single (unique : (names declarations).Nodup)
    (valid : ∀ d ∈ declarations, isName d.name.toList = true) (unmasked : options.maskSecrets = false)
    (keeps : Keeps (generate options declarations).toList label declarations) :
    ∀ d ∈ declarations, '\n' ∉ d.value.toList := by
  obtain ⟨again, ok, _, kept⟩ := keeps
  obtain ⟨lines, cut, writes⟩ := lines_generate options valid
  rw [unmasked] at writes
  rw [parse, cut] at ok
  have long (d : Declaration) : d ∈ declarations.filter (fun d => d.value.toList.contains '\n') ↔
      d ∈ declarations ∧ '\n' ∈ d.value.toList := by
    simp
  cases found : (declarations.filter fun d => d.value.toList.contains '\n').argmax (·.value.toList.length) with
  | none =>
    intro d member broken
    have several := (long d).mpr ⟨member, broken⟩
    rw [List.argmax_eq_none.mp found] at several
    cases several
  | some longest =>
    obtain ⟨member, broken⟩ := (long longest).mp (List.argmax_mem found)
    obtain ⟨own, declared, named, same⟩ := mem_of_value? (kept longest member)
    obtain ⟨_, index, line, _, placed, read⟩ := standsAmong_of_ofLines ok declared
    obtain ⟨d, listed, valid, part⟩ := writes.origin (List.mem_of_getElem? placed) read.reads
    have present : d ∈ declarations := mem_sorted.mp (mem_listed.mp listed)
    -- The line that it is read from is its own, of one line only, or part of a longer value.
    rcases eq_or_shorter_of_lineOf valid part read.reads with ⟨single, called⟩ | ⟨several, shorter⟩
    · have called : longest.name = d.name := named.symm.trans (String.toList_injective called)
      rw [List.inj_on_of_nodup_map unique member present called] at broken
      exact absurd broken single
    · have most := List.le_of_mem_argmax ((long d).mpr ⟨present, several⟩) found
      rw [same] at shorter
      exact absurd shorter (Nat.not_lt.mpr most)

theorem exists_readBack {masks : Bool} (same : List.Forall₂ (IsReadBack masks) declarations declared)
    {declaration : Declaration} (member : declaration ∈ declarations) :
    ∃ again ∈ declared, IsReadBack masks declaration again := by
  induction same with
  | nil => cases member
  | cons own _ ih =>
    rcases List.mem_cons.mp member with rfl | later
    · exact ⟨_, List.mem_cons_self, own⟩
    · obtain ⟨again, known, read⟩ := ih later
      exact ⟨again, List.mem_cons_of_mem _ known, read⟩

theorem value?_readBack (unique : (names declarations).Nodup)
    (readBack : List.Forall₂ (IsReadBack false) (listed options (sorted declarations)) declared)
    {declaration : Declaration} (member : declaration ∈ declarations) :
    value? (keepLast declared) declaration.name = some (String.ofList (valueOf declaration.value.toList)) := by
  have placed : (listed options (sorted declarations)).Perm declarations :=
    (listed_perm ((sorted_perm _).nodup_iff.mpr (nodup_of_names unique))).trans (sorted_perm _)
  have distinct : (names declared).Nodup := by
    rw [names_readBack readBack]
    exact (placed.map _).nodup_iff.mpr unique
  obtain ⟨again, known, read⟩ := exists_readBack readBack (placed.mem_iff.mpr member)
  have same := value?_of_mem distinct known
  rwa [read.name, read.value, shownValue_unmasked] at same

theorem keeps_iff_of_single (unique : (names declarations).Nodup)
    (valid : ∀ d ∈ declarations, isName d.name.toList = true) (unmasked : options.maskSecrets = false)
    (single : ∀ d ∈ declarations, '\n' ∉ d.value.toList)
    (shallow : ∀ d ∈ declarations, Shape.isBracketed d.value.toList = true → ¬ Json.IsTooDeep d.value.toList)
    (label : String) :
    Keeps (generate options declarations).toList label declarations ↔
      ∀ d ∈ declarations, valueOf d.value.toList = d.value.toList := by
  have shown (d : Declaration) : shownValue options.maskSecrets d = d.value := by rw [unmasked, shownValue_unmasked]
  obtain ⟨lines, read, writes⟩ := parse_generate_lines options valid
    (fun d member => shown d ▸ single d member) label
  rw [unmasked] at writes
  constructor
  · rintro ⟨again, ok, _, kept⟩ d member
    have same := (value?_readBack unique (writes.readBack (read ▸ ok)).2 member).symm.trans (kept d member)
    exact String.toList_ofList.symm.trans (congrArg String.toList (Option.some_inj.mp same))
  · intro same
    have legible : ∀ d ∈ listed options (sorted declarations), IsLegible false d := by
      intro d listed
      have member : d ∈ declarations := mem_sorted.mp (mem_listed.mp listed)
      rw [IsLegible, shownValue_unmasked, same d member]
      exact shallow d member
    have returns : Returns (ofLines label 1 (lines.map String.toList)) := writes.returns_iff.mpr legible
    obtain ⟨again, ok⟩ := returns
    obtain ⟨faultless, readBack⟩ := writes.readBack ok
    refine ⟨again, read.trans ok, faultless, fun d member => ?_⟩
    rw [value?_readBack unique readBack member, same d member, String.ofList_toList]

end Values

/-- The variables of a declaration file, of every name the last one, make a template with values that is read back
without a fault and with the value of every variable exactly when each value is bare. -/
theorem generate_keeps_iff {text : List Char} {file : String} {given : Declarations} (ok : parse text file = .ok given)
    {options : Options} (unmasked : options.maskSecrets = false) (label : String) :
    Keeps (generate options (keepLast given.declared)).toList label (keepLast given.declared) ↔
      ∀ d ∈ keepLast given.declared, IsBare d.value.toList := by
  have unique := nodup_names_keepLast given.declared
  have valid : ∀ d ∈ keepLast given.declared, isName d.name.toList = true := fun d member =>
    (reports_of_ofLines ok).isName_of_mem (List.mem_map_of_mem (mem_of_mem_keepLast member))
  have judged (single : ∀ d ∈ keepLast given.declared, '\n' ∉ d.value.toList) :=
    keeps_iff_of_single unique valid unmasked single
      (fun d member => shallow_of_ofLines ok (mem_of_mem_keepLast member)) label
  constructor
  · intro keeps d member
    have single := keeps.single unique valid unmasked
    exact isBare_iff.mpr ⟨single d member, (judged single).mp keeps d member⟩
  · intro bare
    exact (judged fun d member => (bare d member).single).mpr fun d member => (isBare_iff.mp (bare d member)).2

def plainValue : String := "A=\"a'b=c#d\""
def escapedValue : String := "A=\"x\\ny\""

theorem generate_keeps_iff_quoted :
    (∃ given, parse plainValue.toList ".env" = .ok given ∧ (keepLast given.declared).map (·.value) = ["a'b=c#d"] ∧
      Keeps (generate { maskSecrets := false } (keepLast given.declared)).toList ".env.example"
        (keepLast given.declared)) ∧
    ∃ given, parse escapedValue.toList ".env" = .ok given ∧ (keepLast given.declared).map (·.value) = ["x\ny"] ∧
      ¬ Keeps (generate { maskSecrets := false } (keepLast given.declared)).toList ".env.example"
        (keepLast given.declared) := by
  have unmasked : ({ maskSecrets := false } : Options).maskSecrets = false := rfl
  have judged (text value : String) (bare : Bool)
      (told : (parse text.toList ".env").toOption.map (fun given : Declarations =>
        ((keepLast given.declared).map (·.value), decide (∀ d ∈ keepLast given.declared, IsBare d.value.toList))) =
          some ([value], bare)) :
      ∃ given, parse text.toList ".env" = .ok given ∧ (keepLast given.declared).map (·.value) = [value] ∧
        (Keeps (generate { maskSecrets := false } (keepLast given.declared)).toList ".env.example"
          (keepLast given.declared) ↔ bare = true) := by
    obtain ⟨given, ok, same⟩ := Option.map_eq_some_iff.mp told
    obtain ⟨shown, own⟩ := Prod.mk.inj same
    have ok := Outcome.eq_ok_of_toOption ok
    refine ⟨given, ok, shown, (generate_keeps_iff ok unmasked ".env.example").trans ?_⟩
    rw [← own, decide_eq_true_iff]
  obtain ⟨plain, ok, value, keeps⟩ := judged plainValue "a'b=c#d" true (by decide +kernel)
  obtain ⟨escaped, ok', value', loses⟩ := judged escapedValue "x\ny" false (by decide +kernel)
  exact ⟨⟨plain, ok, value, keeps.mpr rfl⟩, escaped, ok', value', loses.not.mpr Bool.false_ne_true⟩

end EnvAudit.Template
