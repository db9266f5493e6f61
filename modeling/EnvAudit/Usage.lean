import EnvAudit.Declaration

/-! Usages: the places where source code reads an environment variable. -/
namespace EnvAudit

inductive Access
  | direct
  | bracket
  | destructure
  | dynamic
  | other (name : String)
deriving Repr, DecidableEq, Inhabited

namespace Access

def name : Access → String
  | .direct => "direct"
  | .bracket => "bracket"
  | .destructure => "destructure"
  | .dynamic => "dynamic"
  | .other name => name

def ofName (name : String) : Access :=
  match name with
  | "direct" => .direct
  | "bracket" => .bracket
  | "destructure" => .destructure
  | "dynamic" => .dynamic
  | custom => .other custom

end Access

/-- One read of a variable; lines count from one and columns from zero. -/
structure Usage where
  name : String
  file : String
  line : Nat
  column : Nat
  access : Access
  shape : Option Shape := none
  isClientSide : Bool := false
deriving Repr, DecidableEq, Inhabited

/-- The name of a usage whose variable is known only when the program runs. -/
def dynamicName : String := "<dynamic>"

namespace Usage

def isNamed (usage : Usage) : Bool := usage.name != dynamicName

def names (usages : List Usage) : List String := (usages.filter isNamed).map (·.name)

end Usage
end EnvAudit
