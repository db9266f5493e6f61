import EnvAudit.Script.Grammar

/-! How operands and binary operators make one expression: tighter operators first, and operators of one level from
the left or from the right. -/
namespace EnvAudit.Script

structure Binding where
  level : Nat
  fromRight : Bool := false
deriving Repr, DecidableEq

def bindingOf? (operator : String) : Option Binding :=
  match operator with
  | "**" => some ⟨12, true⟩
  | "*" | "/" | "%" => some ⟨11, false⟩
  | "+" | "-" => some ⟨10, false⟩
  | "<<" | ">>" | ">>>" => some ⟨9, false⟩
  | "<" | "<=" | ">" | ">=" | "in" | "instanceof" => some ⟨8, false⟩
  | "==" | "!=" | "===" | "!==" => some ⟨7, false⟩
  | "&" => some ⟨6, false⟩
  | "^" => some ⟨5, false⟩
  | "|" => some ⟨4, false⟩
  | "&&" => some ⟨3, false⟩
  | "||" => some ⟨2, false⟩
  | "??" => some ⟨1, false⟩
  | _ => none

def assignmentSigns : List String :=
  ["=", "+=", "-=", "*=", "/=", "%=", "**=", "<<=", ">>=", ">>>=", "&=", "^=", "|=", "&&=", "||=", "??="]

structure Pending where
  left : List Node
  operator : List Node
  binding : Binding
deriving Repr

def Pending.close (pending : Pending) (right : List Node) : List Node :=
  wrap .binary (playing .left pending.left ++ playing .operator pending.operator ++ playing .right right)

def Binding.precedes (binding next : Binding) : Bool :=
  next.level < binding.level || (next.level == binding.level && !binding.fromRight)

def closeBefore (next : Binding) : List Pending → List Node → List Pending × List Node
  | [], right => ([], right)
  | pending :: outer, right =>
    if pending.binding.precedes next then closeBefore next outer (pending.close right) else (pending :: outer, right)

def closeAll : List Pending → List Node → List Node
  | [], right => right
  | pending :: outer, right => closeAll outer (pending.close right)

end EnvAudit.Script
