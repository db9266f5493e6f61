import EnvAudit.Proofs.Declaration.Reading

/-! Quoting. A value that is written between quotes is read back as it is, whatever it contains and however its line is
laid out: between double quotes with its special characters escaped, between single quotes as it stands. -/
namespace EnvAudit.Declaration

def escapeMark? : Char → Option Char
  | '\\' => some '\\'
  | '"' => some '"'
  | '\n' => some 'n'
  | '\r' => some 'r'
  | '\t' => some 't'
  | _ => none

def escape : List Char → List Char
  | [] => []
  | c :: rest =>
    match escapeMark? c with
    | some mark => '\\' :: mark :: escape rest
    | none => c :: escape rest

inductive Quote
  | single
  | double
deriving Repr, DecidableEq

namespace Quote

def mark : Quote → Char
  | .single => '\''
  | .double => '"'

def inner : Quote → List Char → List Char
  | .single, value => value
  | .double, value => escape value

def write (quote : Quote) (value : List Char) : List Char := quote.mark :: (quote.inner value ++ [quote.mark])

end Quote

theorem unescape_pair {c d : Char} (stands : escaped? c = some d) (rest : List Char) :
    unescape ('\\' :: c :: rest) = d :: unescape rest := by
  rw [unescape, stands]

theorem unescape_cons {c : Char} (plain : c ≠ '\\') (rest : List Char) : unescape (c :: rest) = c :: unescape rest := by
  rw [unescape]
  -- The clauses for a backslash do not apply.
  all_goals simp [plain]

theorem escaped?_of_mark {c mark : Char} (marked : escapeMark? c = some mark) : escaped? mark = some c := by
  unfold escapeMark? at marked
  split at marked
  all_goals cases marked
  all_goals rfl

theorem plain_of_unmarked {c : Char} (unmarked : escapeMark? c = none) : c ≠ '\\' ∧ c ≠ '\n' := by
  constructor
  · rintro rfl
    cases unmarked
  · rintro rfl
    cases unmarked

theorem unescape_escape (value : List Char) : unescape (escape value) = value := by
  induction value with
  | nil => rfl
  | cons c rest ih =>
    cases marked : escapeMark? c with
    | some mark =>
      simp only [escape, marked]
      rw [unescape_pair (escaped?_of_mark marked), ih]
    | none =>
      simp only [escape, marked]
      rw [unescape_cons (plain_of_unmarked marked).1, ih]

theorem mark_ne_newline {c mark : Char} (marked : escapeMark? c = some mark) : mark ≠ '\n' := by
  rintro rfl
  cases escaped?_of_mark marked

theorem not_mem_escape (value : List Char) : '\n' ∉ escape value := by
  induction value with
  | nil => exact List.not_mem_nil
  | cons c rest ih =>
    cases marked : escapeMark? c with
    | some mark =>
      have other := mark_ne_newline marked
      simp [escape, marked, ih, other.symm]
    | none =>
      have other := (plain_of_unmarked marked).2
      simp [escape, marked, ih, other.symm]

namespace Quote
variable {quote : Quote} {value : List Char}

theorem not_mem_write (fits : quote = .single → '\n' ∉ value) : '\n' ∉ quote.write value := by
  cases quote with
  | single => simp [write, inner, mark, fits rfl]
  | double => simp [write, inner, mark, not_mem_escape]

theorem enclosingQuote?_between (quote : Quote) (inner : List Char) :
    enclosingQuote? (quote.mark :: (inner ++ [quote.mark])) = some quote.mark := by
  rw [enclosingQuote?, List.head?_cons, ← List.cons_append, List.getLast?_concat]
  cases quote <;> simp [mark]

theorem isBlank_mark (quote : Quote) : Text.isBlank quote.mark = false := by cases quote <;> decide

theorem trim_write (quote : Quote) (value : List Char) : Text.trim (quote.write value) = quote.write value := by
  rw [write, Text.trim_cons quote.isBlank_mark, Text.trimEnd_append_cons quote.isBlank_mark]
  rfl

theorem valueOf_write {indent trailing : List Char} (blank : ∀ c ∈ indent ++ trailing, Text.isBlank c = true) :
    valueOf (indent ++ (quote.write value ++ trailing)) = value := by
  have before : ∀ c ∈ indent, Text.isBlank c = true := fun c member => blank c (by simp [member])
  have after : ∀ c ∈ trailing, Text.isBlank c = true := fun c member => blank c (by simp [member])
  have between : ((quote.write value).drop 1).dropLast = quote.inner value := by simp [write]
  have enclosed : enclosingQuote? (quote.write value) = some quote.mark := enclosingQuote?_between quote _
  unfold valueOf
  rw [Text.trim_append before, Text.trim_append_right after, trim_write]
  dsimp only
  rw [enclosed, between]
  cases quote with
  | single => rfl
  | double => exact unescape_escape value

end Quote

def Reads (text name value : List Char) : Prop :=
  ∀ file, ∃ declaration, parse text file = .ok ⟨[declaration], []⟩ ∧
    declaration.name = String.ofList name ∧ declaration.value = String.ofList value

theorem reads_of_readLine {line name value : List Char} (single : '\n' ∉ line)
    (reads : readLine line = .assignment name value)
    (judgeable : Shape.isBracketed value = true → ¬ Json.IsTooDeep value) : Reads line name value := by
  intro file
  obtain ⟨declaration, made⟩ : Returns (ofAssignment file 1 line name value) := ofAssignment_returns.mpr judgeable
  obtain ⟨_, _, read⟩ := ofAssignment_isReadFrom reads made
  have said := reads.symm.trans read.reads
  injection said with named valued
  have added : addLine file 1 line ⟨[], []⟩ = .ok ⟨[declaration], []⟩ := by
    rw [addLine, reads]
    exact Outcome.bind_eq_ok.mpr ⟨declaration, made, rfl⟩
  have parsed : parse line file = .ok ⟨[declaration], []⟩ := by
    rw [parse, Text.lines, Text.pieces_of_not_mem single]
    exact Outcome.bind_eq_ok.mpr ⟨⟨[], []⟩, rfl, added⟩
  exact ⟨declaration, parsed, by simp [named], by simp [valued]⟩

section RoundTrip
variable {layout : Layout} {quote : Quote} {name value indent trailing : List Char}

/-- However its line is laid out, a quoted value is read back under its name, unless a variable called `export` is
taken for an export mark. -/
theorem reads_quoted (valid : isName name = true) (clear : ¬ layout.Hides name)
    (fits : quote = .single → '\n' ∉ value) (blank : isMargin (indent ++ trailing) = true)
    (judgeable : Shape.isBracketed value = true → ¬ Json.IsTooDeep value) :
    Reads (layout.line name (indent ++ (quote.write value ++ trailing))) name value := by
  have blanks : ∀ c ∈ indent ++ trailing, Text.isBlank c = true := fun c member => (isMargin_iff.mp blank c member).1
  have single : '\n' ∉ indent ++ (quote.write value ++ trailing) := by
    have outside : '\n' ∉ indent ++ trailing := fun member => (isMargin_iff.mp blank '\n' member).2 rfl
    have inside := Quote.not_mem_write fits
    simp only [List.mem_append, not_or] at outside ⊢
    exact ⟨outside.1, inside, outside.2⟩
  have read := Layout.readLine_line valid clear (indent ++ (quote.write value ++ trailing))
  rw [Quote.valueOf_write blanks] at read
  exact reads_of_readLine (Layout.not_mem_line valid single) read judgeable

theorem reads_quoted_specials :
    Reads "  export  KEY\t= \" a\\\"b\\\\c\\n# d\\r\\t\"\t".toList "KEY".toList " a\"b\\c\n# d\r\t".toList :=
  @reads_quoted ⟨"  ".toList, true, [' '], ['\t'], by decide⟩ .double "KEY".toList " a\"b\\c\n# d\r\t".toList [' ']
    ['\t'] (by decide) (by rintro ⟨⟨⟩, _⟩) (by rintro ⟨⟩) (by decide) (fun bracketed => absurd bracketed (by decide))

/-- A variable whose name is taken for an export mark is not read back, whatever its value is. -/
theorem not_reads_of_hides (hidden : layout.Hides name) {text : List Char} (single : '\n' ∉ text) :
    ¬ Reads (layout.line name text) name value := by
  intro reads
  obtain ⟨declaration, parsed, _⟩ := reads ".env"
  have valid : isName name = true := by
    rw [hidden.2.1]
    decide
  have refused : parse (layout.line name text) ".env" =
      .ok ⟨[], [⟨1, "Invalid variable name: \"\"", some ".env"⟩]⟩ := by
    rw [parse, Text.lines, Text.pieces_of_not_mem (Layout.not_mem_line valid single)]
    refine Outcome.bind_eq_ok.mpr ⟨⟨[], []⟩, rfl, ?_⟩
    rw [addLine, Layout.readLine_of_hides hidden]
  rw [refused] at parsed
  cases parsed

theorem not_reads_export_blank :
    isName "export".toList = true ∧
      ¬ Reads (Layout.line ⟨[], false, [], [' '], by decide⟩ "export".toList (Quote.double.write "v".toList))
        "export".toList "v".toList :=
  ⟨by decide, not_reads_of_hides ⟨rfl, rfl, rfl⟩ (by decide)⟩

end RoundTrip
end EnvAudit.Declaration
