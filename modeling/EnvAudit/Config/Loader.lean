import EnvAudit.Config.Field
import EnvAudit.Log
import EnvAudit.Path
import EnvAudit.Text.Case

/-! Loading a configuration from a JSON value. Every field is loaded by itself: one that is refused keeps its default
and leaves a problem, and no problem touches another field. -/
namespace EnvAudit.Config

structure Loaded (α : Type) where
  value : α
  problems : List Problem
deriving Repr

namespace Loaded

def refused {α : Type} (value : α) (path : String) (refusal : Refusal) : Loaded α := ⟨value, [⟨path, refusal⟩]⟩

def refuse {α : Type} (value : α) (path : String) (refusal : Refusal) : Except Failure (Loaded α) :=
  if refusal.isTellable then .ok (refused value path refusal) else .error .nestingTooDeep

def ofField {α : Type} (old : α) (path : String) : Except Refusal α → Except Failure (Loaded α)
  | .ok value => .ok ⟨value, []⟩
  | .error refusal => refuse old path refusal

end Loaded

/-- Inserts an underscore wherever a small letter or digit meets a capital letter. -/
def splitWords : List Char → List Char
  | c :: d :: rest =>
    if (('a' ≤ c && c ≤ 'z') || Text.isArabic c) && 'A' ≤ d && d ≤ 'Z' then c :: '_' :: splitWords (d :: rest)
    else c :: splitWords (d :: rest)
  | short => short

def optionName (key : String) : String :=
  String.ofList (Text.lower ((splitWords key.toList).map fun c => if c == '-' then '_' else c))

abbrev FieldLoader (α : Type) := String → String → Json → α → Except Failure (Loaded α)

def loadFields {α : Type} (load : FieldLoader α) (path : String) :
    List (String × Json) → Loaded α → Except Failure (Loaded α)
  | [], done => .ok done
  | (key, value) :: rest, done => do
    let next ← load (optionName key) (path ++ "." ++ key) value done.value
    loadFields load path rest ⟨next.value, done.problems ++ next.problems⟩

def loadSection {α : Type} (empty : α) (load : FieldLoader α) (path : String) : Json → Except Failure (Loaded α)
  | .object fields => loadFields load path fields ⟨empty, []⟩
  | value => .ok (.refused empty path (.notObject value.kindName))

def loadTable {α : Type} (load : String → Json → Except Failure (Loaded α)) (path : String) :
    List (String × Json) → Except Failure (Loaded (List (String × α)))
  | [] => .ok ⟨[], []⟩
  | (name, value) :: rest => do
    let first ← load (path ++ "." ++ name) value
    let others ← loadTable load path rest
    return ⟨(name, first.value) :: others.value, first.problems ++ others.problems⟩

def patternRefusal? (setting : String) : Except Failure (Option Refusal) :=
  match Pattern.ofSetting setting with
  | .ok _ => .ok none
  | .error (.flawed flaw position) =>
    .ok (some (.badPattern setting ((Pattern.Fault.flawed flaw position).message (Pattern.body setting))))
  | .error .clashingModes => .ok (some (.clashingModes (Pattern.Fault.clashingModes.message (Pattern.body setting))))
  | .error (.longNumber digits) => .ok (some (.longNumber digits))
  | .error fault => .error (fault.failure (Pattern.body setting))

/-- A scalar that stands where a text is compared with values takes its text form. -/
def scalarText : Json → Json
  | .bool b => .text (if b then "true" else "false")
  | .int n => .text (toString n)
  | .real r => .text (r.write "inf" "nan")
  | value => value

def loadPlainField {α : Type} (set? : String → Json → α → Option (Except Refusal α)) : FieldLoader α :=
  fun key path value old =>
    match set? key value old with
    | some result => Loaded.ofField old path result
    | none => .ok (.refused old path .unknownOption)

def loadRuleField {α : Type} (set? : String → Json → α → Option (Except Refusal α)) : FieldLoader α :=
  fun key path value old =>
    let set := loadPlainField set? key path
    match key, value with
    | "enum", .list items => set (.list (items.map scalarText)) old
    | "must_be", value => set (scalarText value) old
    | "pattern", .null => set .null old
    | "pattern", .text pattern => do
      match ← patternRefusal? pattern with
      | some refusal => return .refused old path refusal
      | none => set (.text pattern) old
    | "pattern", value => .ok (.refused old path (.patternNotText value.kindName))
    | _, value => set value old

def loadOverride (path : String) (value : Json) : Except Failure (Loaded Override) :=
  loadSection {} (loadRuleField Override.set?) path value

def loadVariableField : FieldLoader Rule := fun key path value old =>
  match key, value with
  | "environments", .object fields => do
    let table ← loadTable loadOverride path fields
    return ⟨{ old with environments := table.value }, table.problems⟩
  | "environments", value => Loaded.refuse old path (.notTable ⟨"VariableRule", key⟩ value)
  | _, value => loadRuleField Rule.set? key path value old

def loadRule (path : String) (value : Json) : Except Failure (Loaded Rule) := loadSection {} loadVariableField path value

def loadEnvironment (path : String) (value : Json) : Except Failure (Loaded EnvironmentSetting) :=
  loadSection {}
    (fun key => loadPlainField EnvironmentSetting.set? (if key == "env_files" then "files" else key)) path value

def loadMatrix (path : String) (value : Json) : Except Failure (Loaded MatrixSetting) :=
  loadSection {} (loadPlainField MatrixSetting.set?) path value

/-- Keeps the entries of a list that are patterns or no texts at all, with a problem for every other one. -/
def keepPatterns (path : String) : Nat → List Json → Except Failure (Except Refusal (List Json) × List Problem)
  | _, [] => .ok (.ok [], [])
  | index, value :: rest => do
    let refusal? ← match value with
      | .text setting => patternRefusal? setting
      | _ => pure none
    match refusal? with
    | none =>
      let (kept, problems) ← keepPatterns path (index + 1) rest
      return (kept.map (value :: ·), problems)
    | some (.badPattern setting message) =>
      let (kept, problems) ← keepPatterns path (index + 1) rest
      return (kept, ⟨path ++ "[" ++ toString index ++ "]", .badPattern setting message⟩ :: problems)
    | some refusal => return (.error refusal, [])

def loadSecretPatterns (path : String) (value : Json) (old : Config) : Except Failure (Loaded Config) :=
  let set := loadPlainField set? "secret_patterns" path
  match value with
  | .list items => do
    match ← keepPatterns path 0 items with
    | (.ok kept, problems) =>
      let loaded ← set (.list kept) old
      return ⟨loaded.value, problems ++ loaded.problems⟩
    | (.error refusal, problems) => return ⟨old, problems ++ [⟨path, refusal⟩]⟩
  | value => set value old

def loadConfigField : FieldLoader Config := fun key path value old =>
  match if key == "env_files" then "declaration_files" else key, value with
  | "variables", .object fields => do
    let table ← loadTable loadRule path fields
    return ⟨{ old with ruleEntries := table.value.map fun (name, rule) => (name, .read rule) }, table.problems⟩
  | "variables", value => Loaded.refuse old path (.notTable (ownSlot "variables") value)
  | "environments", .object fields => do
    let table ← loadTable loadEnvironment path fields
    return ⟨{ old with environments := table.value.map fun (name, entry) => (name, .read entry) }, table.problems⟩
  | "environments", value => Loaded.refuse old path (.notTable (ownSlot "environments") value)
  | "matrix", value => do
    let matrix ← loadMatrix path value
    return ⟨{ old with matrix := some matrix.value }, matrix.problems⟩
  | "secret_patterns", value => loadSecretPatterns path value old
  | key, value => loadPlainField set? key path value old

def load (value : Json) : Except Failure (Loaded Config) := loadSection {} loadConfigField "config" value

def placedAt (directory : Path) (config : Config) : Config :=
  { config with root := (if config.root == "." then directory else directory.child config.root).text }

def logger : String := "env_doctor.config"

def read (value : Json) (directory : Path) : Logged Config := do
  let loaded ← load value
  if !loaded.problems.isEmpty then
    Logged.report .warning logger "Config validation warnings:"
    loaded.problems.forM fun problem => Logged.report .warning logger ("  " ++ problem.text)
  return loaded.value.placedAt directory

end EnvAudit.Config
