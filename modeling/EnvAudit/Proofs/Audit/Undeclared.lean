import EnvAudit.Proofs.Audit.Repetition

/-! Which variables are reported as missing, in which order and where. Variables that code reads come first, in the
order and at the place of their first reads; then those that only a rule demands, in the order of the rules. A variable
that code reads although a default stands for it is reported only if its rule demands it as well, among the latter. -/
namespace EnvAudit.Missing

structure IsAbsent (declared : List Declaration) (config : Config) (name : String) : Prop where
  undeclared : name ∉ Declaration.names declared
  heard : Ignore.silences config.ignore name .missing = false

def IsRequired (config : Config) (name : String) : Prop := ∃ rule, config.rule? name = some rule ∧ rule.required = true

structure IsRead (declared : List Declaration) (used : List Usage) (config : Config) (name : String) : Prop where
  used : name ∈ used.map (·.name)
  named : name ≠ dynamicName
  absent : IsAbsent declared config name
  bare : ∀ rule, config.rule? name = some rule → rule.default = none

/-- Whether issues are exactly those to be reported: the former about reads, the latter about demands of rules. -/
structure AreExact (declared : List Declaration) (used : List Usage) (config : Config) (reads demands : List Issue) :
    Prop where
  once : ((reads ++ demands).map (·.name)).Nodup
  read : ∀ name, name ∈ reads.map (·.name) ↔ IsRead declared used config name
  demanded : ∀ name, name ∈ demands.map (·.name) ↔
    IsAbsent declared config name ∧ IsRequired config name ∧ ¬ IsRead declared used config name
  byUse : (reads.map (·.name)).Sublist (Text.distinct (used.map (·.name)))
  byRule : (demands.map (·.name)).Sublist (config.ruleEntries.map (·.1))
  placed : ∀ issue ∈ reads, ∃ usage, used.find? (·.name == issue.name) = some usage ∧
    issue.location = some ⟨usage.file, usage.line, some usage.column⟩
  unplaced : ∀ issue ∈ demands, issue.location = none
  kind : ∀ issue ∈ reads ++ demands, issue.kind = .missing
  graded : ∀ issue ∈ reads ++ demands, (IsRequired config issue.name → issue.severity = .error) ∧
    (¬ IsRequired config issue.name → issue.severity = .warning)

section Rules
variable {config : Config} {name : String}

theorem isRequired_iff : isRequired config name = true ↔ IsRequired config name := by
  unfold isRequired IsRequired
  cases config.rule? name with
  | none => simp
  | some rule => simp

theorem mem_rules_iff (distinct : (config.ruleEntries.map (·.1)).Nodup) {rule : Rule} :
    (name, rule) ∈ config.rules ↔ config.rule? name = some rule := by
  have found := Config.rules_filter distinct name
  have listed : (name, rule) ∈ config.rules ↔ (name, rule) ∈ config.rules.filter (·.1 == name) := by simp
  rw [listed, found]
  cases config.rule? name with
  | none => simp
  | some other => simp [eq_comm]

theorem names_rules_sublist (config : Config) : (config.rules.map (·.1)).Sublist (config.ruleEntries.map (·.1)) := by
  rw [Config.rules]
  generalize config.ruleEntries = entries
  induction entries with
  | nil => exact List.Sublist.slnil
  | cons first rest ih =>
    obtain ⟨key, entry⟩ := first
    cases entry with
    | read rule => exact ih.cons_cons key
    | unread value => exact ih.cons key

end Rules

section Reads
variable {declared : List Declaration} {used : List Usage} {config : Config} {name : String}

theorem isOpen_iff_isAbsent : isOpen declared config name = true ↔ IsAbsent declared config name := by
  rw [isOpen_iff]
  exact ⟨fun ⟨undeclared, heard⟩ => ⟨undeclared, heard⟩, fun ⟨undeclared, heard⟩ => ⟨undeclared, heard⟩⟩

theorem hasDefault_eq_false_iff :
    hasDefault config name = false ↔ ∀ rule, config.rule? name = some rule → rule.default = none := by
  unfold hasDefault
  cases config.rule? name with
  | none => simp
  | some rule => simp

theorem isRead_iff :
    IsRead declared used config name ↔ name ∈ used.map (·.name) ∧ isReportable declared config name = true := by
  rw [isReportable, Bool.and_eq_true, Bool.and_eq_true, bne_iff_ne, isOpen_iff_isAbsent, Bool.not_eq_true',
    hasDefault_eq_false_iff]
  constructor
  · rintro ⟨used, named, absent, bare⟩
    exact ⟨used, ⟨named, absent⟩, bare⟩
  · rintro ⟨used, ⟨named, absent⟩, bare⟩
    exact ⟨used, named, absent, bare⟩

theorem names_firstReads (used : List Usage) (reported : List String) :
    (firstReads declared config used reported).map (·.name) =
      (Text.distinct (used.map (·.name))).filter fun name =>
        isReportable declared config name && !reported.contains name := by
  induction used generalizing reported with
  | nil => rfl
  | cons usage rest ih =>
    rw [firstReads_cons, List.map_cons, Text.distinct_cons]
    split
    · next shown =>
      rw [List.map_cons, ih, List.filter_cons, if_pos shown, List.filter_filter]
      congr 2
      funext name
      simp only [List.contains_cons, Bool.not_or, bne]
      rw [Bool.and_assoc, Bool.and_comm (!reported.contains name)]
    · next hidden =>
      rw [ih, List.filter_cons, if_neg hidden, List.filter_filter]
      congr 1
      funext name
      by_cases same : name = usage.name
      · rw [same, Bool.eq_false_iff.mpr hidden, Bool.false_and]
      · simp [same]

theorem find?_of_mem_firstReads {reported : List String} {usage : Usage}
    (member : usage ∈ firstReads declared config used reported) : used.find? (·.name == usage.name) = some usage := by
  induction used generalizing reported with
  | nil => cases member
  | cons first rest ih =>
    have fresh : usage.name ∉ reported := (mem_firstReads_iff.mp (List.mem_map_of_mem member)).2.2
    have reportable : isReportable declared config usage.name = true := of_mem_firstReads member
    rw [firstReads_cons] at member
    split at member
    · rcases List.mem_cons.mp member with rfl | later
      · exact List.find?_cons_of_pos (by simp)
      · have known := (mem_firstReads_iff.mp (List.mem_map_of_mem later)).2.2
        have other : first.name ≠ usage.name := fun same => known (same ▸ List.mem_cons_self)
        rw [List.find?_cons_of_neg (by simpa using other)]
        exact ih later
    · next hidden =>
      -- Had the first read this name, it would have been reported.
      have other : first.name ≠ usage.name := by
        intro same
        rw [same] at hidden
        simp [reportable, fresh] at hidden
      rw [List.find?_cons_of_neg (by simpa using other)]
      exact ih member

theorem mem_names_firstReads_iff :
    name ∈ (firstReads declared config used []).map (·.name) ↔ IsRead declared used config name := by
  rw [mem_firstReads_iff, isRead_iff]
  simp [and_comm]

theorem mem_requiredNames_iff (distinct : (config.ruleEntries.map (·.1)).Nodup) {reported : List String} :
    name ∈ requiredNames declared config reported ↔
      IsAbsent declared config name ∧ IsRequired config name ∧ name ∉ reported := by
  rw [← isOpen_iff_isAbsent]
  constructor
  · intro demanded
    obtain ⟨⟨name, rule⟩, kept, rfl⟩ := List.mem_map.mp demanded
    obtain ⟨listed, shown⟩ := List.mem_filter.mp kept
    simp only [Bool.and_eq_true, Bool.not_eq_true', List.contains_eq_mem, decide_eq_false_iff_not] at shown
    exact ⟨shown.2, ⟨rule, (mem_rules_iff distinct).mp listed, shown.1.1⟩, shown.1.2⟩
  · rintro ⟨absent, ⟨rule, found, required⟩, unread⟩
    have listed := (mem_rules_iff distinct).mpr found
    exact List.mem_map.mpr ⟨(name, rule), List.mem_filter.mpr ⟨listed, by simp [required, unread, absent]⟩, rfl⟩

end Reads

section Report
variable {declared : List Declaration} {used : List Usage} {config : Config}

/-- The issues about missing variables are exactly those to be reported. -/
theorem issues_exact (distinct : (config.ruleEntries.map (·.1)).Nodup) :
    ∃ reads demands, issues declared used config = reads ++ demands ∧
      AreExact declared used config reads demands := by
  have first : ((firstReads declared config used []).map (ofUsage config)).map (·.name) =
      (firstReads declared config used []).map (·.name) := by
    rw [List.map_map]
    rfl
  have last (names : List String) : (names.map ofRule).map (·.name) = names := by
    rw [List.map_map]
    exact List.map_id names
  refine ⟨_, _, rfl, ?_⟩
  constructor
  case once => exact nodup_names_issues distinct used
  case read =>
    intro name
    rw [first]
    exact mem_names_firstReads_iff
  case demanded =>
    intro name
    rw [last, mem_requiredNames_iff distinct, mem_names_firstReads_iff]
  case byUse =>
    rw [first, names_firstReads]
    exact List.filter_sublist
  case byRule =>
    rw [last]
    exact (List.filter_sublist.map _).trans (names_rules_sublist config)
  case placed =>
    intro issue member
    obtain ⟨usage, read, rfl⟩ := List.mem_map.mp member
    exact ⟨usage, find?_of_mem_firstReads read, rfl⟩
  case unplaced =>
    intro issue member
    obtain ⟨name, _, rfl⟩ := List.mem_map.mp member
    rfl
  case kind =>
    intro issue member
    exact (shape_of_mem member).1
  case graded =>
    intro issue member
    rcases List.mem_append.mp member with read | demanded
    · obtain ⟨usage, _, rfl⟩ := List.mem_map.mp read
      rw [← isRequired_iff]
      exact ⟨fun required => if_pos required, fun optional => if_neg optional⟩
    · obtain ⟨name, listed, rfl⟩ := List.mem_map.mp demanded
      have required : IsRequired config name := ((mem_requiredNames_iff distinct).mp listed).2.1
      exact ⟨fun _ => rfl, fun optional => absurd required optional⟩

def orderedReads : List Usage :=
  [⟨"PORT", "src/a.ts", 1, 0, .direct, none, false⟩, ⟨"HOST", "src/a.ts", 2, 0, .direct, none, false⟩,
    ⟨"HOST", "src/b.ts", 1, 4, .direct, none, false⟩]

def orderedConfig : Config where
  ruleEntries :=
    [("TOKEN", .read { required := true }), ("PORT", .read { required := true, default := some (.int 80) })]

theorem issues_exact_ordered :
    (issues [] orderedReads orderedConfig).map (·.name) = ["HOST", "TOKEN", "PORT"] ∧
      ∃ reads demands, issues [] orderedReads orderedConfig = reads ++ demands ∧
        AreExact [] orderedReads orderedConfig reads demands :=
  ⟨by decide +kernel, issues_exact (by decide)⟩

end Report
end EnvAudit.Missing
