import EnvAudit.Script.TypeGrammar

/-! The grammar of what binds names: patterns, and the parameters of functions. -/
namespace EnvAudit.Script
open EnvAudit.Script.Parser

variable (cx : Context)

def spreadable : Grammar := do
  if ← atMark "..." then return construct ((← sign "...") ++ (← cx.expression))
  return ← cx.expression

def arguments : Grammar := return wrap .arguments (← bracketedLoosely '(' ')' (spreadable cx))

def decoratorStep (done : List Node) : Parser (Option (List Node)) := do
  if ← atMark "." then
    let dot ← sign "."
    let name ← orElse privateName (takeName .propertyName)
    return some (wrap .member (playing .object done ++ dot ++ playing .property name))
  else return none

def decorator : Grammar := asConstruct do
  let opening ← sign "@"
  if ← atChar '(' then
    return opening ++ wrap .parenthesized (← enclosed '(' ')' cx.sequence)
  let path ← growing decoratorStep (← takeName .identifier)
  let types ← possibly (if ← atChar '<' then typeArguments cx else fail)
  if ← atChar '(' then
    return opening ++ wrap .call (playing .function path ++ types ++ playing .arguments (← arguments cx))
  return opening ++ path

def decorators : Grammar :=
  growing (fun done => do if ← atMark "@" then return some (done ++ (← decorator cx)) else return none) []

def defaultIf : Grammar := do
  if ← atMark "=" then return (← sign "=") ++ (← cx.expression) else return []

def defaultable : Grammar := do
  let target ← cx.binding
  if ← atMark "=" then
    return wrap .assignmentPattern (playing .left target ++ (← sign "=") ++ (← cx.expression))
  return target

def restPattern : Grammar := return wrap .restPattern ((← sign "...") ++ (← cx.binding))

def shorthandEntry : Grammar := do
  let name ← takeName .shorthandName
  if ← atMark "=" then
    return wrap .assignmentPattern (playing .left name ++ (← sign "=") ++ (← cx.expression))
  require ((← atChar ',') || (← atChar '\x7d'))
  return name

def pairEntry : Grammar := do
  let key ← propertyName cx
  let colon ← sign ":"
  return wrap .pairPattern (playing .key key ++ colon ++ (← defaultable cx))

def objectEntry : Grammar := do
  if ← atMark "..." then restPattern cx else orElse (shorthandEntry cx) (pairEntry cx)

def arrayEntry : Grammar := do if ← atMark "..." then restPattern cx else defaultable cx

def bindingPattern : Grammar := do
  match (← rest).head? with
  | some '\x7b' => return wrap .objectPattern (← bracketedLoosely '\x7b' '\x7d' (objectEntry cx))
  | some '[' => return wrap .arrayPattern (← bracketedLoosely '[' ']' (arrayEntry cx))
  | _ => takeName .identifier

def parameterModifiers : List String := ["public", "private", "protected", "override", "readonly", "accessor"]

def parameter : Grammar := asConstruct do
  let notes ← decorators cx
  let before ← modifiers parameterModifiers (do return (← atName) || (← atChar '\x7b') || (← atChar '['))
  let target ← if ← atMark "..." then restPattern cx else cx.binding
  let mark ← signIf "?"
  let type ← annotationIf cx
  return notes ++ before ++ target ++ mark ++ type ++ (← defaultIf cx)

def parameterList : Grammar := asConstruct (bracketed '(' ')' (parameter cx))

def functionTail : Grammar := return (← signature cx) ++ (← cx.block)

end EnvAudit.Script
