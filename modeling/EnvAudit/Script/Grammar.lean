import EnvAudit.Script.Token

/-! What the parts of the grammar share. The rules call each other through a table, so that every rule is a plain
function of the table and only the table is recursive. -/
namespace EnvAudit.Script

structure Mode where
  noIn : Bool := false
  noTyped : Bool := false
deriving Repr, DecidableEq

inductive Goal
  | statement
  | block
  | expression (mode : Mode)
  | sequence (mode : Mode)
  | unary
  | type
  | unionType
  | binding
  | parameters
  | classTail
  | markup
deriving Repr, DecidableEq

structure Context where
  allowsMarkup : Bool
  read : Goal → Grammar

namespace Context

def statement (cx : Context) : Grammar := cx.read .statement

def block (cx : Context) : Grammar := cx.read .block

def expression (cx : Context) : Grammar := cx.read (.expression {})

def sequence (cx : Context) : Grammar := cx.read (.sequence {})

def type (cx : Context) : Grammar := cx.read .type

def binding (cx : Context) : Grammar := cx.read .binding

def parameters (cx : Context) : Grammar := cx.read .parameters

end Context

open EnvAudit.Script.Parser

def construct (parts : List Node) : List Node := wrap .construct parts

def asConstruct (grammar : Grammar) : Grammar := return construct (← grammar)

def firstOf : List Grammar → Grammar
  | [] => fail
  | [last] => last
  | first :: others => orElse first (firstOf others)

def privateName : Grammar := do
  let text ← rest
  match text with
  | '#' :: name =>
    require (0 < nameLength name)
    take .privateName (nameLength name + 1)
  | _ => fail

def computedName (cx : Context) : Grammar := asConstruct (enclosed '[' ']' cx.expression)

def propertyName (cx : Context) : Grammar := do
  match (← rest).head? with
  | some '\'' | some '"' => string
  | some '[' => computedName cx
  | some '#' => privateName
  | some c => if Text.isArabic c || c == '.' then number else takeName .propertyName
  | none => fail

def atPropertyName : Parser Bool := do
  match (← rest).head? with
  | some c => return c == '\'' || c == '"' || c == '[' || c == '#' || Text.isArabic c || (← atName)
  | none => return false

def modifier (words : List String) (follows : Parser Bool) : Parser (Option (List Node)) := do
  if !(← atWords words) then return none
  attempt do
    let nodes ← takeName .keyword
    require (← follows)
    return nodes

def modifiers (words : List String) (follows : Parser Bool) : Grammar :=
  growing (fun done => do return (← modifier words follows).map (done ++ ·)) []

def templateParts (content : Grammar) : Grammar :=
  manyUntil (fun r => r.rest.head? == some '\x60') do
    let text ← rest
    match text with
    | '$' :: '\x7b' :: _ =>
      let opening ← take .mark 2
      let inner ← content
      require (← atChar '\x7d')
      let closing ← takeRaw .mark 1
      return wrap .substitution (opening ++ inner ++ closing)
    | '\\' :: _ =>
      let length := escapeLength text
      require (0 < length)
      takeRaw .escape length
    | '$' :: _ => takeRaw .fragment 1
    | _ => takeRaw .fragment (text.takeWhile fun c => c != '\x60' && c != '$' && c != '\\').length

def templateOf (content : Grammar) : Grammar := do
  require (← atChar '\x60')
  let opening ← takeRaw .mark 1
  let inner ← templateParts content
  let closing ← take .mark 1
  return wrap .template (opening ++ inner ++ closing)

end EnvAudit.Script
