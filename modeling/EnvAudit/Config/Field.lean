import EnvAudit.Config
import EnvAudit.Config.Refusal

/-! Setting single fields of a configuration to JSON values. A field takes a value of its kind and refuses any other. -/
namespace EnvAudit.Config

def stringField (slot : Slot) : Json → Except Refusal String
  | .text s => .ok s
  | value => .error (.notString slot value.kindName)

def stringField? (slot : Slot) : Json → Except Refusal (Option String)
  | .null => .ok none
  | value => (stringField slot value).map some

def booleanField (slot : Slot) : Json → Except Refusal Bool
  | .bool b => .ok b
  | value => .error (.notBoolean slot false value)

def booleanField? (slot : Slot) : Json → Except Refusal (Option Bool)
  | .bool b => .ok (some b)
  | .null => .ok none
  | value => .error (.notBoolean slot true value)

def strings (slot : Slot) : List Json → Except Refusal (List String)
  | [] => .ok []
  | .text s :: rest => (strings slot rest).map (s :: ·)
  | value :: _ => .error (.badItem slot value.kindName)

def listField (slot : Slot) : Json → Except Refusal (List String)
  | .list items => strings slot items
  | value => .error (.notList slot value.kindName)

def listField? (slot : Slot) : Json → Except Refusal (Option (List String))
  | .null => .ok none
  | value => (listField slot value).map some

def tableField (slot : Slot) : Json → Except Refusal (List (String × Json))
  | .object fields => .ok fields
  | value => .error (.notTable slot value)

def choiceField {α : Type} (slot : Slot) (ofName? : String → Option α) (choices : List String) (value : Json) :
    Except Refusal α :=
  match value.text?.bind ofName? with
  | some choice => .ok choice
  | none => .error (.notChoice slot value choices)

def typeField (slot : Slot) (value : Json) : Except Refusal (Option ValueType) :=
  if value == .null then .ok none
  else (choiceField slot ValueType.ofName? ("None" :: ValueType.all.map ValueType.name) value).map some

/-- A framework by name; the name `auto` leaves it to detection. -/
def frameworkField (slot : Slot) (value : Json) : Except Refusal (Option Framework) :=
  choiceField slot (fun name => if name == "auto" then some none else (Framework.ofName? name).map some)
    ("auto" :: Framework.all.map Framework.name) value

def setConstraint? (owner key : String) (value : Json) (c : Constraints) : Option (Except Refusal Constraints) :=
  let slot : Slot := ⟨owner, key⟩
  match key with
  | "type" => some ((typeField slot value).map fun type => { c with type })
  | "pattern" => some ((stringField? slot value).map fun pattern => { c with pattern })
  | "enum" => some ((listField? slot value).map fun enum => { c with enum })
  | _ => none

end EnvAudit.Config

namespace EnvAudit
open Config

def Override.set? (key : String) (value : Json) (o : Override) : Option (Except Refusal Override) :=
  let slot : Slot := ⟨"EnvironmentOverride", key⟩
  match key with
  | "required" => some ((booleanField? slot value).map fun required => { o with required })
  | "must_be" => some ((stringField? slot value).map fun mustBe => { o with mustBe })
  | "message" => some ((stringField? slot value).map fun message => { o with message })
  | _ => (setConstraint? slot.owner key value o.constraints).map (·.map fun constraints => { o with constraints })

def Rule.set? (key : String) (value : Json) (r : Rule) : Option (Except Refusal Rule) :=
  let slot : Slot := ⟨"VariableRule", key⟩
  match key with
  | "required" => some ((booleanField slot value).map fun required => { r with required })
  | "secret" => some ((booleanField slot value).map fun secret => { r with secret })
  | "default" => some (.ok { r with default := if value == .null then none else some value })
  | "description" => some ((stringField? slot value).map fun description => { r with description })
  | "docs_url" => some ((stringField? slot value).map fun docsUrl => { r with docsUrl })
  | _ => (setConstraint? slot.owner key value r.constraints).map (·.map fun constraints => { r with constraints })

def EnvironmentSetting.set? (key : String) (value : Json) (e : EnvironmentSetting) :
    Option (Except Refusal EnvironmentSetting) :=
  let slot : Slot := ⟨"EnvironmentConfig", key⟩
  match key with
  | "files" => some ((listField slot value).map fun files => { e with files })
  | "description" => some ((stringField? slot value).map fun description => { e with description })
  | "strict" => some ((booleanField slot value).map fun strict => { e with strict })
  | _ => none

def MatrixSetting.set? (key : String) (value : Json) (m : MatrixSetting) : Option (Except Refusal MatrixSetting) :=
  let slot : Slot := ⟨"MatrixConfig", key⟩
  match key with
  | "require_consistency" => some
    ((choiceField slot Consistency.ofName? (Consistency.all.map Consistency.name) value).map
      fun requireConsistency => { m with requireConsistency })
  | "exclude_from_matrix" => some
    ((listField slot value).map fun excludeFromMatrix => { m with excludeFromMatrix })
  | _ => none

namespace Config

def ownSlot (key : String) : Slot := ⟨"EnvDoctorConfig", key⟩

def set? (key : String) (value : Json) (c : Config) : Option (Except Refusal Config) :=
  let slot := ownSlot key
  match key with
  | "root" => some ((stringField slot value).map fun root => { c with root })
  | "declaration_files" => some ((listField slot value).map fun declarationFiles => { c with declarationFiles })
  | "template_file" => some ((stringField? slot value).map fun templateFile => { c with templateFile })
  | "include" => some ((listField slot value).map fun sources => { c with sources })
  | "exclude" => some ((listField slot value).map fun exclude => { c with exclude })
  | "framework" => some ((frameworkField slot value).map fun framework => { c with framework })
  | "ignore" => some ((listField slot value).map fun ignore => { c with ignore })
  | "strict" => some ((booleanField slot value).map fun strict => { c with strict })
  | "secret_patterns" => some ((listField slot value).map fun secretPatterns => { c with secretPatterns })
  | _ => none

/-- Puts a value into a field as it stands: the entries of a section stay unread, and a field of unknown name
disregards it. -/
def assign (key : String) (value : Json) (c : Config) : Except Refusal Config :=
  match key with
  | "variables" =>
    (tableField (ownSlot key) value).map fun fields =>
      { c with ruleEntries := fields.map fun (name, entry) => (name, .unread entry) }
  | "environments" =>
    (tableField (ownSlot key) value).map fun fields =>
      { c with environments := fields.map fun (name, entry) => (name, .unread entry) }
  | "matrix" => if value == .null then .ok { c with matrix := none } else .error (.notSection (ownSlot key) value)
  | _ => (c.set? key value).getD (.ok c)

end Config
end EnvAudit
