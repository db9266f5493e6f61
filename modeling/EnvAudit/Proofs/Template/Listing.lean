import EnvAudit.Proofs.Declaration.Reading
import EnvAudit.Proofs.Text.Case
import EnvAudit.Template

/-! Templates read back. A template whose names are all valid is read without a fault and declares exactly its names:
its other lines are blank or comments, and the values that it shows neither end a line nor stand in brackets. -/
namespace EnvAudit.Template
open Declaration

def wild : List Char := ['\n', '\\', '[', '\x7b']

/-- Whether a value is read as it stands on one line, without being tried as JSON. -/
def isTame (value : String) : Bool := wild.all fun c => !value.toList.contains c

theorem isTame_iff {value : String} : isTame value = true ↔ ∀ c ∈ wild, c ∉ value.toList := by
  simp [isTame]

def isForeign (c : Char) : Bool :=
  decide (c.toNat < 128) && !Text.isLatin c && !Text.isDigit c && !"true".toList.contains c && !"false".toList.contains c

/-- A harmless value has no character that is no digit and stays out of the truth values in lower case. -/
theorem not_mem_of_isHarmless {value : String} {c : Char} (harmless : isHarmless value = true)
    (digitless : Text.isDigit c = false) (kept : ∀ before after, Text.lowerWithin before c after = [c])
    (positive : c ∉ "true".toList) (negative : c ∉ "false".toList) : c ∉ value.toList := by
  intro member
  have lowered := Text.mem_lower_of_kept kept member
  rw [isHarmless, Bool.or_eq_true, List.all_eq_true, List.contains_iff_mem, List.mem_cons, List.mem_singleton]
    at harmless
  rcases harmless with digits | same | same
  · rw [digits c member] at digitless
    cases digitless
  · rw [← String.toList_ofList (l := Text.lower value.toList), same] at lowered
    exact positive lowered
  · rw [← String.toList_ofList (l := Text.lower value.toList), same] at lowered
    exact negative lowered

theorem not_mem_of_isForeign {value : String} {c : Char} (harmless : isHarmless value = true)
    (foreign : isForeign c = true) : c ∉ value.toList := by
  simp only [isForeign, Bool.and_eq_true, Bool.not_eq_true', decide_eq_true_eq, List.contains_eq_mem,
    decide_eq_false_iff_not] at foreign
  obtain ⟨⟨⟨⟨ascii, letterless⟩, digitless⟩, positive⟩, negative⟩ := foreign
  exact not_mem_of_isHarmless harmless digitless (Text.lowerWithin_of_letterless ascii letterless) positive negative

theorem isTame_of_isHarmless {value : String} (harmless : isHarmless value = true) : isTame value = true := by
  have foreign : ∀ c ∈ wild, isForeign c = true := List.all_eq_true.mp (by decide)
  exact isTame_iff.mpr fun c listed => not_mem_of_isForeign harmless (foreign c listed)

theorem isTame_example? (name value : String) : isTame (example? name value) = true := by
  rw [example?]
  split
  · cases found : urlExamples.find? fun entry => beginsWith value entry.1 with
    | none => rfl
    | some entry =>
      have tame : urlExamples.all (fun entry => isTame entry.2) = true := by decide
      exact List.all_eq_true.mp tame entry (List.mem_of_find?_eq_some found)
  · split
    · next harmless => exact isTame_of_isHarmless harmless
    · split
      · decide
      · rfl

theorem isTame_shownValue (declaration : Declaration) : isTame (shownValue true declaration) = true := by
  rw [shownValue]
  split
  · rfl
  · rw [if_neg (by decide)]
    split
    · rfl
    · exact isTame_example? _ _

theorem not_isBracketed_valueOf {value : String} (tame : isTame value = true) :
    ¬ Shape.isBracketed (valueOf value.toList) = true := by
  intro bracketed
  have absent := isTame_iff.mp tame
  have inside := (valueOf_isInfix (absent '\\' (by decide))).subset
  simp only [Shape.isBracketed, Bool.or_eq_true, Bool.and_eq_true, beq_iff_eq] at bracketed
  rcases bracketed with opening | opening
  · exact absent '\x7b' (by decide) (inside (List.mem_of_mem_head? opening.1))
  · exact absent '[' (by decide) (inside (List.mem_of_mem_head? opening.1))

section Variable
variable {masks : Bool} {declaration : Declaration}

theorem lineOf_eq (masks : Bool) (declaration : Declaration) :
    (lineOf masks declaration).toList =
      ({} : Layout).line declaration.name.toList (shownValue masks declaration).toList := by
  simp [lineOf, Layout.line, Layout.front]

theorem assigns_lineOf (masks : Bool) (valid : isName declaration.name.toList = true) :
    Assigns (lineOf masks declaration).toList declaration.name.toList
      (Text.trimEnd (shownValue masks declaration).toList) := by
  rw [lineOf_eq]
  exact Layout.assigns_line valid (Layout.not_hides_plain _) _

theorem inline_lineOf (valid : isName declaration.name.toList = true)
    (single : '\n' ∉ (shownValue masks declaration).toList) : '\n' ∉ (lineOf masks declaration).toList := by
  rw [lineOf_eq]
  exact Layout.not_mem_line valid single

end Variable

theorem isInline_of_isPlainWordChar {c : Char} (plain : Text.isPlainWordChar c = true) : Text.IsInline c := by
  have bounds := Text.toNat_of_isPlainWordChar plain
  refine ⟨by omega, ?_⟩
  intro same
  rw [same] at plain
  cases plain

theorem groupOf_inline {name : String} (valid : isName name.toList = true) :
    ∀ c ∈ (groupOf name).toList, Text.IsInline c := by
  have inline : ∀ c ∈ name.toList, Text.IsInline c := fun c member =>
    isInline_of_isPlainWordChar (plain_of_isName valid c member)
  rw [groupOf]
  split
  · next known found =>
    have matched := List.find?_some found
    have begins : known.toList <+: name.toList := List.isPrefixOf_iff_prefix.mp matched
    exact fun c member => inline c (begins.subset member)
  · split
    · next head rest cut =>
      obtain ⟨whole, _⟩ := Text.eq_append_of_cut? cut
      rw [whole] at inline
      rw [String.toList_ofList]
      refine List.forall_mem_append.mpr ⟨fun c member => inline c (List.mem_append_left _ member), ?_⟩
      exact List.forall_mem_singleton.mpr ⟨by decide, by decide⟩
    · intro c member
      cases member

theorem titleOf_inline {group : String} (inline : ∀ c ∈ group.toList, Text.IsInline c) :
    '\n' ∉ (titleOf group).toList := by
  have words : ∀ c ∈ (Text.dropEndWhile (· == '_') group.toList).map fun c => if c == '_' then ' ' else c,
      Text.IsInline c := by
    intro c member
    obtain ⟨d, kept, rfl⟩ := List.mem_map.mp member
    have part : Text.dropEndWhile (· == '_') group.toList <+: group.toList := List.rdropWhile_prefix _ _
    split
    · exact ⟨by decide, by decide⟩
    · exact inline d (part.subset kept)
  intro member
  rw [titleOf, String.toList_ofList] at member
  exact (Text.title_inline (Text.lower_inline words) '\n' member).2 rfl

variable {declarations : List Declaration}

theorem mem_sorted {declaration : Declaration} : declaration ∈ sorted declarations ↔ declaration ∈ declarations :=
  List.mem_mergeSort

theorem isSilent_comment (text : List Char) : IsSilent ('#' :: text) := by
  have solid : Text.isBlank '#' = false := by decide
  rw [IsSilent, Text.trim_cons solid]
  exact .inr rfl

theorem header_silent : ∀ line ∈ header, IsSilent line.toList ∧ '\n' ∉ line.toList := by
  have told : ∀ line ∈ header,
      ((Text.trim line.toList).isEmpty || (Text.trim line.toList).head? == some '#') = true ∧ '\n' ∉ line.toList := by
    decide
  exact fun line member => ⟨isSilent_iff.mpr (told line member).1, (told line member).2⟩

/-- Whether lines write variables in their order, with or without masks, and with silent lines between them. -/
inductive Writes (masks : Bool) : List String → List Declaration → Prop
  | done : Writes masks [] []
  | silent {line : String} {lines : List String} {declarations : List Declaration} (silent : IsSilent line.toList)
      (inline : '\n' ∉ line.toList) (rest : Writes masks lines declarations) : Writes masks (line :: lines) declarations
  | assignment {declaration : Declaration} {lines : List String} {declarations : List Declaration}
      (valid : isName declaration.name.toList = true) (rest : Writes masks lines declarations) :
      Writes masks (lineOf masks declaration :: lines) (declaration :: declarations)

section Writing
variable {masks : Bool} {lines lines' : List String} {declarations' : List Declaration}

theorem Writes.append (first : Writes masks lines declarations) (second : Writes masks lines' declarations') :
    Writes masks (lines ++ lines') (declarations ++ declarations') := by
  induction first with
  | done => exact second
  | silent silent inline _ ih => exact .silent silent inline ih
  | assignment valid _ ih => exact .assignment valid ih

theorem writes_silent (silent : ∀ line ∈ lines, IsSilent line.toList ∧ '\n' ∉ line.toList) : Writes masks lines [] := by
  induction lines with
  | nil => exact .done
  | cons line rest ih =>
    obtain ⟨head, tail⟩ := List.forall_mem_cons.mp silent
    exact .silent head.1 head.2 (ih tail)

theorem writes_variables (masks : Bool) (valid : ∀ d ∈ declarations, isName d.name.toList = true) :
    Writes masks (declarations.map (lineOf masks)) declarations := by
  induction declarations with
  | nil => exact .done
  | cons declaration rest ih =>
    obtain ⟨head, tail⟩ := List.forall_mem_cons.mp valid
    exact .assignment head (ih tail)

theorem writes_flatMap {groups : List String} {part : String → List String} {own : String → List Declaration}
    (writes : ∀ group ∈ groups, Writes masks (part group) (own group)) :
    Writes masks (groups.flatMap part) (groups.flatMap own) := by
  induction groups with
  | nil => exact .done
  | cons group rest ih =>
    obtain ⟨head, tail⟩ := List.forall_mem_cons.mp writes
    exact head.append (ih tail)

theorem Writes.inline (writes : Writes masks lines declarations)
    (single : ∀ d ∈ declarations, '\n' ∉ (shownValue masks d).toList) : ∀ line ∈ lines, '\n' ∉ line.toList := by
  induction writes with
  | done => exact List.forall_mem_nil _
  | silent _ inline _ ih => exact List.forall_mem_cons.mpr ⟨inline, ih single⟩
  | assignment valid _ ih =>
    obtain ⟨head, tail⟩ := List.forall_mem_cons.mp single
    exact List.forall_mem_cons.mpr ⟨inline_lineOf valid head, ih tail⟩

end Writing

section Layout
variable {options : Options}

def listed (options : Options) (declarations : List Declaration) : List Declaration :=
  if options.groupByPrefix then
    (sortStrings (Text.distinct (declarations.map fun d => groupOf d.name))).flatMap fun group =>
      declarations.filter fun d => groupOf d.name == group
  else declarations

theorem mem_listed {declaration : Declaration} :
    declaration ∈ listed options declarations ↔ declaration ∈ declarations := by
  rw [listed]
  split
  · simp only [List.mem_flatMap, List.mem_filter, mem_sortStrings, Text.mem_distinct, List.mem_map, beq_iff_eq]
    constructor
    · rintro ⟨_, _, member, _⟩
      exact member
    · exact fun member => ⟨_, ⟨declaration, member, rfl⟩, member, rfl⟩
  · rfl

theorem writes_groupLines (valid : ∀ d ∈ declarations, isName d.name.toList = true) {group : String}
    (inline : ∀ c ∈ group.toList, Text.IsInline c) :
    Writes options.maskSecrets (groupLines options declarations group)
      (declarations.filter fun d => groupOf d.name == group) := by
  have title : Writes options.maskSecrets
      (if options.includeComments && group != "" then ["# " ++ titleOf group] else []) [] := by
    split
    · refine writes_silent (List.forall_mem_singleton.mpr ?_)
      rw [String.toList_append]
      refine ⟨isSilent_comment _, ?_⟩
      have titled := titleOf_inline inline
      simp [titled]
    · exact .done
  have own := writes_variables options.maskSecrets
    fun d (member : d ∈ declarations.filter fun d => groupOf d.name == group) => valid d (List.mem_filter.mp member).1
  have blank : Writes options.maskSecrets [""] [] := .silent (.inl rfl) List.not_mem_nil .done
  have whole := (title.append own).append blank
  rw [List.append_nil] at whole
  exact whole

theorem writes_template (options : Options) (valid : ∀ d ∈ declarations, isName d.name.toList = true) :
    Writes options.maskSecrets ((if options.includeComments then header else []) ++ body options (sorted declarations))
      (listed options (sorted declarations)) := by
  have valid : ∀ d ∈ sorted declarations, isName d.name.toList = true := fun d member => valid d (mem_sorted.mp member)
  have early : Writes options.maskSecrets (if options.includeComments then header else []) [] := by
    split
    · exact writes_silent header_silent
    · exact .done
  have later : Writes options.maskSecrets (body options (sorted declarations)) (listed options (sorted declarations)) := by
    rw [body, listed]
    split
    · refine writes_flatMap fun group member => writes_groupLines valid ?_
      obtain ⟨d, present, rfl⟩ := List.mem_map.mp (Text.mem_distinct.mp (mem_sortStrings.mp member))
      exact groupOf_inline (valid d present)
    · exact writes_variables _ valid
  exact early.append later

/-- The lines that a template is read as are those of what it writes; without a line it is read as one empty line. -/
theorem lines_generate (options : Options) (valid : ∀ d ∈ declarations, isName d.name.toList = true) :
    ∃ lines, Text.lines (generate options declarations).toList = lines.flatMap (fun line => Text.lines line.toList) ∧
      Writes options.maskSecrets lines (listed options (sorted declarations)) := by
  have writes := writes_template options valid
  rw [generate, joinWith, String.toList_ofList]
  generalize (if options.includeComments then header else []) ++ body options (sorted declarations) = lines at *
  cases lines with
  | nil => exact ⟨[""], rfl, .silent (.inl rfl) List.not_mem_nil writes⟩
  | cons line rest =>
    refine ⟨line :: rest, ?_, writes⟩
    have cut := Text.pieces_join '\n' (List.cons_ne_nil line.toList (rest.map String.toList))
    rw [← List.map_cons, List.flatMap_map] at cut
    exact cut

end Layout

structure IsReadBack (masks : Bool) (declaration again : Declaration) : Prop where
  name : again.name = declaration.name
  value : again.value = String.ofList (valueOf (shownValue masks declaration).toList)
  isSecret : again.isSecret = Secret.isLikely again.name again.value []

section Reading
variable {masks : Bool} {lines : List String} {file : String} {number : Nat} {result : Declarations}

def IsLegible (masks : Bool) (declaration : Declaration) : Prop :=
  Shape.isBracketed (valueOf (shownValue masks declaration).toList) = true →
    ¬ Json.IsTooDeep (valueOf (shownValue masks declaration).toList)

theorem isJudgeable_lineOf {declaration : Declaration} (valid : isName declaration.name.toList = true) :
    IsJudgeable (lineOf masks declaration).toList ↔ IsLegible masks declaration := by
  have own := assigns_lineOf masks valid
  constructor
  · intro judgeable
    have judged := judgeable _ _ own
    rwa [Layout.valueOf_trimEnd] at judged
  · intro legible name text assigns
    have same := (readLine_of_assigns own).symm.trans (readLine_of_assigns assigns)
    injection same with _ value
    rwa [← value, Layout.valueOf_trimEnd]

theorem Writes.returns_iff (writes : Writes masks lines declarations) :
    Returns (ofLines file number (lines.map String.toList)) ↔ ∀ d ∈ declarations, IsLegible masks d := by
  rw [ofLines_returns]
  induction writes with
  | done => simp
  | silent silent _ _ ih =>
    rw [List.map_cons, List.forall_mem_cons, ih]
    exact and_iff_right fun name text assigns => absurd silent assigns.speaks
  | assignment valid _ ih =>
    rw [List.map_cons, List.forall_mem_cons, List.forall_mem_cons, ih, isJudgeable_lineOf valid]

theorem isReadBack_of_ofAssignment {declaration again : Declaration} {raw : List Char}
    (made : ofAssignment file number raw declaration.name.toList (valueOf (shownValue masks declaration).toList) =
      .ok again) : IsReadBack masks declaration again := by
  refine ⟨?_, ?_, ofAssignment_isSecret made⟩
  all_goals
    obtain ⟨shape, _, same⟩ := Outcome.bind_eq_ok.mp made
    injection same with same
    rw [← same]
  exact String.ofList_toList

theorem Writes.readBack (writes : Writes masks lines declarations)
    (ok : ofLines file number (lines.map String.toList) = .ok result) :
    result.faults = [] ∧ List.Forall₂ (IsReadBack masks) declarations result.declared := by
  induction writes generalizing number result with
  | done =>
    cases ok
    exact ⟨rfl, .nil⟩
  | silent silent _ _ ih =>
    obtain ⟨others, read, added⟩ := Outcome.bind_eq_ok.mp ok
    rw [addLine, readLine_of_silent silent] at added
    cases added
    exact ih read
  | assignment valid _ ih =>
    obtain ⟨others, read, added⟩ := Outcome.bind_eq_ok.mp ok
    rw [addLine, readLine_of_assigns (assigns_lineOf masks valid), Layout.valueOf_trimEnd] at added
    obtain ⟨again, made, same⟩ := Outcome.bind_eq_ok.mp added
    cases same
    obtain ⟨faultless, same⟩ := ih read
    exact ⟨faultless, .cons (isReadBack_of_ofAssignment made) same⟩

variable {options : Options}

theorem parse_generate_lines (options : Options) (valid : ∀ d ∈ declarations, isName d.name.toList = true)
    (single : ∀ d ∈ declarations, '\n' ∉ (shownValue options.maskSecrets d).toList) (file : String) :
    ∃ lines, parse (generate options declarations).toList file = ofLines file 1 (lines.map String.toList) ∧
      Writes options.maskSecrets lines (listed options (sorted declarations)) := by
  obtain ⟨lines, cut, writes⟩ := lines_generate options valid
  refine ⟨lines, ?_, writes⟩
  have inline := writes.inline fun d member => single d (mem_sorted.mp (mem_listed.mp member))
  rw [parse, cut, ← List.flatMap_singleton' (lines.map String.toList), List.flatMap_map]
  congr 1
  exact List.flatMap_congr fun line member => Text.pieces_of_not_mem (inline line member)

theorem isLegible_masked (declaration : Declaration) : IsLegible true declaration := fun bracketed =>
  absurd bracketed (not_isBracketed_valueOf (isTame_shownValue declaration))

theorem parse_generate_readBack (masked : options.maskSecrets = true)
    (valid : ∀ d ∈ declarations, isName d.name.toList = true) (file : String) :
    ∃ result, parse (generate options declarations).toList file = .ok result ∧ result.faults = [] ∧
      List.Forall₂ (IsReadBack true) (listed options (sorted declarations)) result.declared := by
  have single : ∀ d ∈ declarations, '\n' ∉ (shownValue options.maskSecrets d).toList := fun d _ =>
    masked ▸ isTame_iff.mp (isTame_shownValue d) '\n' (by decide)
  obtain ⟨lines, read, writes⟩ := parse_generate_lines options valid single file
  rw [masked] at writes
  have returns : Returns (ofLines file 1 (lines.map String.toList)) :=
    writes.returns_iff.mpr fun d _ => isLegible_masked d
  obtain ⟨result, ok⟩ := returns
  exact ⟨result, read.trans ok, writes.readBack ok⟩

end Reading

theorem names_readBack {masks : Bool} {declared : List Declaration}
    (same : List.Forall₂ (IsReadBack masks) declarations declared) :
    names declared = names declarations := by
  induction same with
  | nil => rfl
  | cons own _ ih =>
    rw [names, names, List.map_cons, List.map_cons, own.name]
    exact congrArg _ ih

theorem parse_generate (valid : ∀ d ∈ declarations, isName d.name.toList = true) (file : String) :
    ∃ result, parse (generate {} declarations).toList file = .ok result ∧ result.faults = [] ∧
      ∀ name, name ∈ names result.declared ↔ name ∈ names declarations := by
  have masked : ({} : Options).maskSecrets = true := rfl
  obtain ⟨result, ok, faultless, same⟩ := parse_generate_readBack masked valid file
  refine ⟨result, ok, faultless, fun name => ?_⟩
  rw [names_readBack same]
  simp only [names, List.mem_map, mem_listed, mem_sorted]

end EnvAudit.Template
