import EnvAudit.Script.BindingGrammar

/-! The grammar of what follows the name of a class: what it extends, and its members. -/
namespace EnvAudit.Script
open EnvAudit.Script.Parser

variable (cx : Context)

def memberModifiers : List String :=
  ["public", "private", "protected", "static", "abstract", "override", "readonly", "declare", "accessor", "async", "get",
    "set"]

def staticBlock : Grammar := do
  let word ← keyword "static"
  require (← atChar '\x7b')
  return construct (word ++ (← cx.block))

def fieldEnd (inType : Bool) : Grammar := do
  if ← atMark "," then sign "," else semicolonAfter inType

def namedMember : Grammar := do
  let before ← modifiers memberModifiers (do return (← atPropertyName) || (← atChar '*'))
  let star ← signIf "*"
  let name ← propertyName cx
  let mark ← if (← atMark "?") || (← atMark "!") then take .mark 1 else pure []
  let head := before ++ star ++ name ++ mark
  if (← atChar '(') || (← atChar '<') then
    let described ← signature cx
    if ← atChar '\x7b' then return construct (head ++ described ++ (← cx.block))
    return construct (head ++ described) ++ (← fieldEnd true)
  let type ← annotationIf cx
  let value ← defaultIf cx
  return construct (head ++ type ++ value) ++ (← fieldEnd value.isEmpty)

def indexMember : Grammar := do return construct (← indexSignature cx) ++ (← fieldEnd true)

def classMember : Grammar := do
  if ← atMark ";" then return ← sign ";"
  let notes ← decorators cx
  return notes ++ (← firstOf [staticBlock cx, indexMember cx, namedMember cx])

def classBody : Grammar :=
  asConstruct (enclosed '\x7b' '\x7d' (manyUntil (fun r => r.rest.head? == some '\x7d') (classMember cx)))

def ancestor : Grammar := do
  let parent ← cx.read .unary
  return parent ++ (← given (atChar '<') (typeArguments cx))

def commaSome (item : Grammar) : Grammar := do
  growing (fun done => do
    if ← atMark "," then return some (done ++ (← sign ",") ++ (← item)) else return none) (← item)

def heritage : Grammar := do
  let extended ← given (atWord "extends") do return (← keyword "extends") ++ (← commaSome (ancestor cx))
  let fulfilled ← given (atWord "implements") do return (← keyword "implements") ++ (← commaSome cx.type)
  return extended ++ fulfilled

def classTail : Grammar := return construct ((← heritage cx) ++ (← classBody cx))

end EnvAudit.Script
