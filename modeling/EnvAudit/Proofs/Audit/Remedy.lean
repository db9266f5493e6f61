import EnvAudit.Proofs.Audit.Restriction
import EnvAudit.Proofs.Declaration.Reading
import EnvAudit.Usage.Scan

/-! What becomes of a missing variable when its fix is followed. The fix adds a line that assigns nothing to the name.
Then no issue tells of this variable and all others are told as before, provided that the name can be declared; and
otherwise the variable stays missing. -/
namespace EnvAudit

namespace Declaration

/-- Whether a text is another one with one more line at its end; a line feed may follow this line. -/
def Appends (text line longer : List Char) : Prop :=
  ∃ before tail, longer = before ++ (line ++ tail) ∧ (tail = [] ∨ tail = ['\n']) ∧
    (before = text ++ ['\n'] ∨ before = text ∧ (text = [] ∨ text.getLast? = some '\n'))

variable {text line longer : List Char}

theorem mem_lines_of_tail {tail : List Char} (single : '\n' ∉ line) (ending : tail = [] ∨ tail = ['\n'])
    {other : List Char} (filled : other ≠ []) : other ∈ Text.lines (line ++ tail) ↔ other = line := by
  rcases ending with rfl | rfl
  · rw [List.append_nil, Text.lines, Text.pieces_of_not_mem single, List.mem_singleton]
  · rw [Text.lines, Text.pieces_append, Text.pieces_of_not_mem single, List.mem_append, List.mem_singleton]
    have last : other ∉ Text.pieces '\n' [] := by simpa [Text.pieces] using filled
    simp [last]

theorem Appends.mem_lines_iff (appends : Appends text line longer) (single : '\n' ∉ line) {other : List Char}
    (filled : other ≠ []) : other ∈ Text.lines longer ↔ other ∈ Text.lines text ∨ other = line := by
  obtain ⟨before, tail, rfl, ending, rfl | ⟨rfl, rfl | ended⟩⟩ := appends
  · rw [List.append_assoc, List.singleton_append, Text.lines, Text.pieces_append, List.mem_append]
    exact or_congr Iff.rfl (mem_lines_of_tail single ending filled)
  · have none : other ∉ Text.lines [] := by simpa [Text.lines, Text.pieces] using filled
    rw [List.nil_append, mem_lines_of_tail single ending filled]
    simp [none]
  · obtain ⟨others, rfl⟩ := List.getLast?_eq_some_iff.mp ended
    have last : other ∉ Text.pieces '\n' [] := by simpa [Text.pieces] using filled
    rw [List.append_assoc, List.singleton_append, Text.lines, Text.lines, Text.pieces_append, Text.pieces_append,
      List.mem_append, List.mem_append]
    refine or_congr ?_ (mem_lines_of_tail single ending filled)
    simp [last]

def emptyLine (name : String) : List Char := name.toList ++ ['=']

variable {name : String}

theorem emptyLine_assigns (valid : isName name.toList = true) : Assigns (emptyLine name) name.toList [] :=
  Layout.assigns_line valid (Layout.not_hides_plain name.toList) []

theorem isJudgeable_emptyLine (valid : isName name.toList = true) : IsJudgeable (emptyLine name) := by
  intro other text assigns bracketed
  have read := (readLine_of_assigns assigns).symm.trans (readLine_of_assigns (emptyLine_assigns valid))
  injection read with _ value
  rw [value] at bracketed
  cases bracketed

theorem Assigns.ne_nil {other assigned : List Char} (assigns : Assigns line other assigned) : line ≠ [] := by
  rintro rfl
  exact assigns.speaks (.inl rfl)

theorem parse_emptyLine {file : String} {found : Declarations} (valid : isName name.toList = true)
    (appends : Appends text (emptyLine name) longer) (ok : parse text file = .ok found) :
    ∃ found', parse longer file = .ok found' ∧
      ∀ other, other ∈ names found'.declared ↔ other ∈ names found.declared ∨ other = name := by
  have single : '\n' ∉ ({} : Layout).line name.toList [] := Layout.not_mem_line valid List.not_mem_nil
  have judgeable : ∀ line ∈ Text.lines longer, IsJudgeable line := by
    intro line member other assigned assigns
    have known := (appends.mem_lines_iff single assigns.ne_nil).mp member
    rcases known with earlier | rfl
    · exact ofLines_returns.mp ⟨found, ok⟩ line earlier other assigned assigns
    · exact isJudgeable_emptyLine valid other assigned assigns
  obtain ⟨found', ok'⟩ := ofLines_returns.mpr judgeable
  refine ⟨found', ok', fun other => ?_⟩
  rw [(reports_of_ofLines ok').mem_names_iff, (reports_of_ofLines ok).mem_names_iff]
  constructor
  · rintro ⟨line, member, assigned, assigns⟩
    rcases (appends.mem_lines_iff single assigns.ne_nil).mp member with earlier | rfl
    · exact .inl ⟨line, earlier, assigned, assigns⟩
    · exact .inr (String.toList_injective (assigns.name_eq (emptyLine_assigns valid)))
  · rintro (⟨line, member, assigned, assigns⟩ | rfl)
    · exact ⟨line, (appends.mem_lines_iff single assigns.ne_nil).mpr (.inl member), assigned, assigns⟩
    · have assigns := emptyLine_assigns valid
      exact ⟨_, (appends.mem_lines_iff single assigns.ne_nil).mpr (.inr rfl), [], assigns⟩

end Declaration

namespace Usage.Fallback

theorem plain_of_continuesName {c : Char} (continues : continuesName c = true) : Text.isPlainWordChar c = true := by
  simp only [continuesName, beginsName, Bool.or_eq_true] at continues
  rcases continues with (capital | underscore) | digit
  · simp [Text.isPlainWordChar, Text.isLatin, capital]
  · simp [Text.isPlainWordChar, underscore]
  · simp [Text.isPlainWordChar, digit]

theorem isName_of_name? {text name : List Char} (found : name? text = some name) :
    Declaration.isName name = true := by
  cases text with
  | nil => cases found
  | cons c rest =>
    rw [name?] at found
    split at found
    · next begins =>
      cases found
      have continues : continuesName c = true := by simp [continuesName, begins]
      have others : (rest.takeWhile continuesName).all Text.isPlainWordChar = true := by
        rw [List.all_eq_true]
        intro d member
        exact plain_of_continuesName (List.mem_takeWhile_imp member)
      rw [List.takeWhile_cons_of_pos continues, Declaration.isName, others, Bool.and_true]
      rw [beginsName, Bool.or_eq_true] at begins
      rcases begins with capital | underscore
      · simp [Text.isLatin, capital]
      · simp [underscore]
    · cases found

theorem isName_of_bracketRead? {text name : List Char} (found : bracketRead? text = some name) :
    Declaration.isName name = true := by
  unfold bracketRead? at found
  split at found
  · split at found
    · split at found
      · next read =>
        split at found
        · split at found
          · cases found
            exact isName_of_name? read
          · cases found
        · cases found
      · cases found
    · cases found
  · cases found

theorem of_mem_readsFrom {read? : List Char → Option (List Char)} {column : Nat} {text : List Char}
    {read : String × Nat} (member : read ∈ readsFrom read? column text) :
    ∃ rest, read? rest = some read.1.toList := by
  induction text generalizing column with
  | nil => cases member
  | cons c rest ih =>
    rw [readsFrom] at member
    split at member
    · next name found =>
      rcases List.mem_cons.mp member with rfl | later
      · exact ⟨c :: rest, by simpa using found⟩
      · exact ih later
    · exact ih member

theorem isName_of_mem {site : Site} {source : List Char} {usage : Usage} (member : usage ∈ usages site source) :
    Declaration.isName usage.name.toList = true := by
  obtain ⟨⟨line, index⟩, _, member⟩ := List.mem_flatMap.mp member
  have readAfter {opening : String} {text name : List Char} (found : readAfter? opening text = some name) :
      Declaration.isName name = true := by
    obtain ⟨rest, _, read⟩ := Option.bind_eq_some_iff.mp found
    exact isName_of_name? read
  simp only [ofLine, usagesOf, List.mem_append, List.mem_map] at member
  rcases member with (⟨read, listed, rfl⟩ | ⟨read, listed, rfl⟩) | ⟨read, listed, rfl⟩
  · obtain ⟨rest, found⟩ := of_mem_readsFrom listed
    exact readAfter found
  · obtain ⟨rest, found⟩ := of_mem_readsFrom listed
    exact isName_of_bracketRead? found
  · obtain ⟨rest, found⟩ := of_mem_readsFrom listed
    exact readAfter found

end Usage.Fallback

namespace Missing
open Declaration
variable {declared declared' : List Declaration} {used : List Usage} {config : Config}

theorem isOpen_iff {name : String} : isOpen declared config name = true ↔
    name ∉ names declared ∧ Ignore.silences config.ignore name .missing = false := by
  simp [isOpen, declares]

def IsWanted (used : List Usage) (config : Config) (name : String) : Prop :=
  (name ∈ Usage.names used ∧ hasDefault config name = false) ∨
    ∃ rule, (name, rule) ∈ config.rules ∧ rule.required = true

theorem mem_firstReads_iff {name : String} {reported : List String} :
    name ∈ (firstReads declared config used reported).map (·.name) ↔
      isReportable declared config name = true ∧ name ∈ used.map (·.name) ∧ name ∉ reported := by
  induction used generalizing reported with
  | nil => simp [firstReads]
  | cons usage rest ih =>
    rw [firstReads_cons, List.map_cons, List.mem_cons]
    split
    · next shown =>
      simp only [Bool.and_eq_true, Bool.not_eq_true', List.contains_eq_mem, decide_eq_false_iff_not] at shown
      rw [List.map_cons, List.mem_cons, ih, List.mem_cons]
      by_cases same : name = usage.name
      · subst same
        simp [shown]
      · simp [same]
    · next hidden =>
      simp only [Bool.and_eq_true, Bool.not_eq_true', List.contains_eq_mem, decide_eq_false_iff_not] at hidden
      rw [ih]
      by_cases same : name = usage.name
      · subst same
        have never : ¬ (isReportable declared config usage.name = true ∧ usage.name ∉ reported) := hidden
        tauto
      · simp [same]

theorem names_issues : (issues declared used config).map (·.name) =
    (firstReads declared config used []).map (·.name) ++
      requiredNames declared config ((firstReads declared config used []).map (·.name)) := by
  rw [issues, List.map_append, List.map_map, List.map_map]
  congr 1
  exact List.map_id _

theorem mem_names_issues_iff {name : String} : name ∈ (issues declared used config).map (·.name) ↔
    isOpen declared config name = true ∧ IsWanted used config name := by
  have named : name ∈ Usage.names used ↔ name ≠ dynamicName ∧ name ∈ used.map (·.name) := by
    simp only [Usage.names, Usage.isNamed, List.mem_map, List.mem_filter, bne_iff_ne]
    constructor
    · rintro ⟨usage, ⟨member, known⟩, rfl⟩
      exact ⟨known, usage, member, rfl⟩
    · rintro ⟨known, usage, member, rfl⟩
      exact ⟨usage, ⟨member, known⟩, rfl⟩
  have read : name ∈ (firstReads declared config used []).map (·.name) ↔
      isOpen declared config name = true ∧ name ∈ Usage.names used ∧ hasDefault config name = false := by
    rw [mem_firstReads_iff, named, isReportable]
    simp only [Bool.and_eq_true, bne_iff_ne, Bool.not_eq_true', List.not_mem_nil, not_false_eq_true, and_true]
    tauto
  have required (reported : List String) : name ∈ requiredNames declared config reported ↔
      (∃ rule, (name, rule) ∈ config.rules ∧ rule.required = true) ∧ name ∉ reported ∧
        isOpen declared config name = true := by
    simp [requiredNames]
    tauto
  rw [names_issues, List.mem_append, required, read, IsWanted]
  tauto

theorem shape_of_mem {issue : Issue} (member : issue ∈ issues declared used config) :
    issue.kind = .missing ∧ issue.fix = some (fixFor issue.name) ∧
      (issue.location.isSome = true → ∃ usage ∈ used, usage.name = issue.name) := by
  rw [issues, List.mem_append, List.mem_map, List.mem_map] at member
  rcases member with ⟨usage, read, rfl⟩ | ⟨name, required, rfl⟩
  · refine ⟨rfl, rfl, fun _ => ?_⟩
    have first : usage.name ∈ (firstReads declared config used []).map (·.name) := List.mem_map_of_mem read
    exact List.mem_map.mp (mem_firstReads_iff.mp first).2.1
  · exact ⟨rfl, rfl, by rintro ⟨⟩⟩

theorem issues_of_declared {name : String}
    (more : ∀ other, other ∈ names declared' ↔ other ∈ names declared ∨ other = name) :
    issues declared' used config = (issues declared used config).filter (·.name != name) := by
  have others : (issues declared' used config).filter (·.name != name) =
      (issues declared used config).filter (·.name != name) := by
    apply restrict_issues (· != name) rfl _ (fun _ _ => rfl) rfl
    intro other kept
    have different : other ≠ name := by simpa using kept
    rw [Bool.eq_iff_iff, isOpen_iff, isOpen_iff, more]
    simp [different]
  rw [← others, eq_comm, List.filter_eq_self]
  intro issue member
  have undeclared := (isOpen_iff.mp (mem_names_issues_iff.mp (List.mem_map_of_mem member)).1).1
  have different : issue.name ≠ name := fun same => undeclared ((more issue.name).mpr (.inr same))
  simpa using different

/-- Every issue about a missing variable tells how to declare it. Following this removes its issues and leaves all
others as they are exactly when the variable has a name that can be declared. Code without a tree reads no other
variables. -/
theorem remedied_iff {text longer : List Char} {file : String} {found : Declarations} {issue : Issue}
    (ok : parse text file = .ok found) (member : issue ∈ issues found.declared used config)
    (appends : Appends text (emptyLine issue.name) longer) :
    issue.kind = .missing ∧ issue.fix = some (fixFor issue.name) ∧
    ((∃ found', parse longer file = .ok found' ∧
        issues found'.declared used config = (issues found.declared used config).filter (·.name != issue.name)) ↔
      isName issue.name.toList = true) ∧
    ∀ site source, Script.parse (.ofPath site.file) source.toList = none → Usage.ofSource site source = .ok used →
      issue.location.isSome = true → isName issue.name.toList = true := by
  obtain ⟨kind, fix, read⟩ := shape_of_mem member
  refine ⟨kind, fix, ⟨?_, ?_⟩, ?_⟩
  · rintro ⟨found', ok', same⟩
    by_contra invalid
    -- The parser takes no such name, so that nothing declares the variable yet.
    have undeclared : issue.name ∉ names found'.declared := fun declares =>
      invalid ((reports_of_ofLines ok').isName_of_mem declares)
    obtain ⟨shown, wanted⟩ := mem_names_issues_iff.mp (List.mem_map_of_mem (f := (·.name)) member)
    have still : issue.name ∈ (issues found'.declared used config).map (·.name) :=
      mem_names_issues_iff.mpr ⟨isOpen_iff.mpr ⟨undeclared, (isOpen_iff.mp shown).2⟩, wanted⟩
    rw [same] at still
    obtain ⟨other, kept, named⟩ := List.mem_map.mp still
    simpa [named] using (List.mem_filter.mp kept).2
  · intro valid
    obtain ⟨found', ok', more⟩ := parse_emptyLine valid appends ok
    exact ⟨found', ok', issues_of_declared more⟩
  · intro site source treeless scanned located
    rw [Usage.ofSource, treeless] at scanned
    cases scanned
    obtain ⟨usage, listed, named⟩ := read located
    rw [← named]
    exact Usage.Fallback.isName_of_mem listed

def hyphenReads : List Usage :=
  [{ name := "MY-VAR", file := "src/index.ts", line := 1, column := 0, access := .bracket }]

theorem remedied_iff_hyphen : ∃ found issue, parse [] ".env" = .ok found ∧
    issue ∈ issues found.declared hyphenReads {} ∧ issue.fix = some "Add MY-VAR= to your .env file" ∧
    Appends [] (emptyLine issue.name) "MY-VAR=\n".toList ∧
    ¬ ∃ found', parse "MY-VAR=\n".toList ".env" = .ok found' ∧
      issues found'.declared hyphenReads {} =
        (issues found.declared hyphenReads {}).filter (·.name != issue.name) := by
  have ok : parse [] ".env" = .ok ⟨[], []⟩ := rfl
  have found : issues [] hyphenReads {} = hyphenReads.map (ofUsage {}) := rfl
  have member : ofUsage {} hyphenReads[0] ∈ issues [] hyphenReads {} := by
    rw [found]
    exact List.mem_cons_self
  have appends : Appends [] (emptyLine "MY-VAR") "MY-VAR=\n".toList :=
    ⟨[], ['\n'], rfl, .inr rfl, .inr ⟨rfl, .inl rfl⟩⟩
  have invalid : ¬ isName "MY-VAR".toList = true := by decide
  have exact := remedied_iff ok member appends
  exact ⟨_, _, ok, member, exact.2.1, appends, fun works => invalid (exact.2.2.1.mp works)⟩

end Missing
end EnvAudit
