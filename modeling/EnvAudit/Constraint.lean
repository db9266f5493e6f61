import EnvAudit.ValueType

/-! What a rule demands of a value: a type, a pattern, and a list of allowed values, each of them optional. They are
checked in this order, and the first one that the value violates is reported. -/
namespace EnvAudit

structure Constraints where
  type : Option ValueType := none
  pattern : Option String := none
  enum : Option (List String) := none
deriving Repr, DecidableEq, Inhabited

inductive Violation
  | type (expected : ValueType)
  | pattern (expected : String)
  | enum (allowed : List String)
deriving Repr, DecidableEq

namespace Constraints

def activePattern? (c : Constraints) : Option String := c.pattern.filter (· != "")

def activeEnum? (c : Constraints) : Option (List String) := c.enum.filter (!·.isEmpty)

def isActive (c : Constraints) : Bool := c.type.isSome || c.activePattern?.isSome || c.activeEnum?.isSome

def admitsType (c : Constraints) (value : String) : Except Failure Bool :=
  match c.type with
  | some type => type.admits value.toList
  | none => .ok true

/-- Whether a value contains a match of the demanded pattern; a text that is no pattern demands nothing. -/
def admitsPattern (c : Constraints) (value : String) : Except Failure Bool :=
  match c.activePattern? with
  | none => .ok true
  | some setting => do
    match ← Pattern.tryCompile setting with
    | .ok pattern => return pattern.occursIn value
    | .error _ => return true

def admitsEnum (c : Constraints) (value : String) : Bool :=
  match c.activeEnum? with
  | some allowed => allowed.contains value
  | none => true

def violation? (c : Constraints) (value : String) : Except Failure (Option Violation) := do
  if !(← c.admitsType value) then return c.type.map .type
  if !(← c.admitsPattern value) then return c.pattern.map .pattern
  if !c.admitsEnum value then return c.enum.map .enum
  return none

/-- What is to be reported about the pattern when a value is checked: the check passes over a text that is no
pattern. -/
def warning? (c : Constraints) (value : String) : Option String :=
  match c.admitsType value, c.activePattern? with
  | .ok true, some setting =>
    match Pattern.tryCompile setting with
    | .ok (.error message) => some ("Ignoring invalid pattern " ++ quotedString setting ++ ": " ++ message)
    | _ => none
  | _, _ => none

end Constraints
end EnvAudit
