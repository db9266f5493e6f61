import EnvAudit.Json.Reader

/-! Declared variables: what a line of a declaration file says, together with what its value looks like. -/
namespace EnvAudit

inductive Shape
  | string
  | number
  | boolean
  | json
  | array
  | other (name : String)
deriving Repr, DecidableEq, Inhabited

namespace Shape

def name : Shape → String
  | .string => "string"
  | .number => "number"
  | .boolean => "boolean"
  | .json => "json"
  | .array => "array"
  | .other name => name

def ofName? (name : String) : Option Shape :=
  match name with
  | "" => none
  | "string" => some .string
  | "number" => some .number
  | "boolean" => some .boolean
  | "json" => some .json
  | "array" => some .array
  | custom => some (.other custom)

end Shape

structure Declaration where
  name : String
  value : String
  line : Nat
  file : String
  isSecret : Bool := false
  shape : Option Shape := none
  raw : Option String := none
deriving Repr, DecidableEq, Inhabited

namespace Declaration

def find? (declarations : List Declaration) (name : String) : Option Declaration :=
  declarations.find? (·.name == name)

def names (declarations : List Declaration) : List String := declarations.map (·.name)

def declares (declarations : List Declaration) (name : String) : Bool := (names declarations).contains name

def layer (kept : List Declaration) (next : Declaration) : List Declaration :=
  kept.filter (·.name != next.name) ++ [next]

/-- Of every name the last declaration, in the order of those. -/
def keepLast (declarations : List Declaration) : List Declaration := declarations.foldl layer []

end Declaration

structure DeclarationFault where
  line : Nat
  message : String
  file : Option String
deriving Repr, DecidableEq

structure Declarations where
  declared : List Declaration
  faults : List DeclarationFault
deriving Repr, DecidableEq, Inhabited

end EnvAudit
