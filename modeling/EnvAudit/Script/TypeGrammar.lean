import EnvAudit.Script.Grammar

/-! The grammar of types. Types matter only where they query the type of an expression; the rest of them is read to
find their end. -/
namespace EnvAudit.Script
open EnvAudit.Script.Parser

variable (cx : Context)

def typeArguments : Grammar := asConstruct (bracketedSome '<' '>' cx.type)

def typeParameter : Grammar := do
  let before ← modifiers ["const", "in", "out"] atName
  let name ← takeName .identifier
  let bound ← given (atWord "extends") do return (← keyword "extends") ++ (← cx.type)
  let default ← given (atMark "=") do return (← sign "=") ++ (← cx.type)
  return construct (before ++ name ++ bound ++ default)

def typeParameters : Grammar := asConstruct (bracketedSome '<' '>' (typeParameter cx))

def typeParametersIf : Grammar := do if ← atChar '<' then typeParameters cx else return []

def resultType : Grammar := do
  let tells : Grammar := do
    let name ← takeName .identifier
    require (!(← onFreshLine))
    return name ++ (← keyword "is") ++ (← cx.type)
  let asserts : Grammar := do
    let first ← keyword "asserts"
    require (!(← onFreshLine) && !(← atWord "is"))
    return first ++ (← orElse tells (takeName .identifier))
  asConstruct (firstOf [asserts, tells, cx.type])

def resultIf : Grammar := do
  if ← atMark ":" then return (← sign ":") ++ (← resultType cx) else return []

def annotation : Grammar := do asConstruct do return (← sign ":") ++ (← cx.type)

def annotationIf : Grammar := do if ← atMark ":" then annotation cx else return []

def functionTypeTail : Grammar := do
  return (← typeParametersIf cx) ++ (← cx.parameters) ++ (← sign "=>") ++ (← resultType cx)

def constructorType : Grammar := do
  return (← keywordIf "abstract") ++ (← keyword "new") ++ (← functionTypeTail cx)

def memberEnd : Grammar := do
  match (← rest).head? with
  | some ',' => take .mark 1
  | _ => semicolonAfter true

def signature : Grammar := do return (← typeParametersIf cx) ++ (← cx.parameters) ++ (← resultIf cx)

def indexSignature : Grammar := do
  let before ← modifiers ["readonly", "static"] (atChar '[')
  let opening ← character '['
  let name ← takeName .identifier
  let key ← annotation cx
  let closing ← character ']'
  return before ++ opening ++ name ++ key ++ closing ++ (← annotation cx)

def modifiesMember : Parser Bool := atPropertyName

def propertySignature : Grammar := do
  let before ← modifiers ["readonly", "get", "set", "static", "public", "private", "protected"] modifiesMember
  let name ← propertyName cx
  let mark ← signIf "?"
  if (← atChar '(') || (← atChar '<') then return before ++ name ++ mark ++ (← signature cx)
  return before ++ name ++ mark ++ (← annotationIf cx)

def typeMember : Grammar := do
  if ← atMark ";" then return ← sign ";"
  if ← atMark "," then return ← sign ","
  let newSignature : Grammar := do
    let first ← keyword "new"
    require ((← atChar '(') || (← atChar '<'))
    return first ++ (← signature cx)
  let member ←
    if (← atChar '(') || (← atChar '<') then signature cx
    else firstOf [newSignature, indexSignature cx, propertySignature cx]
  return construct member ++ (← memberEnd)

def objectType : Grammar := do
  asConstruct (enclosed '\x7b' '\x7d' (manyUntil (fun r => r.rest.head? == some '\x7d') (typeMember cx)))

def signed (grammar : Grammar) : Grammar := do
  let plus ← if (← atMark "+") || (← atMark "-") then take .mark 1 else pure []
  return plus ++ (← grammar)

def mappedType : Grammar := asConstruct do
  let opening ← character '\x7b'
  let readonly ← possibly (signed (keyword "readonly"))
  let bracket ← character '['
  let name ← takeName .identifier
  let source ← keyword "in"
  let names ← cx.type
  let renamed ← given (atWord "as") do return (← keyword "as") ++ (← cx.type)
  let closed ← character ']'
  let mark ← possibly (signed (sign "?"))
  let value ← annotationIf cx
  let stop ← if (← atMark ";") || (← atMark ",") then take .mark 1 else pure []
  return opening ++ readonly ++ bracket ++ name ++ source ++ names ++ renamed ++ closed ++ mark ++ value ++ stop
    ++ (← character '\x7d')

def tupleItem : Grammar := do
  let spread ← signIf "..."
  let named : Grammar := do
    let name ← takeName .identifier
    return name ++ (← signIf "?") ++ (← sign ":")
  let name ← possibly named
  return construct (spread ++ name ++ (← cx.type) ++ (← signIf "?"))

def importType : Grammar := do
  let first ← keyword "import"
  let source ← bracketed '(' ')' cx.type
  return construct (first ++ source)

def simpleTypes : List String := ["any", "number", "boolean", "string", "symbol", "unknown", "never", "object"]

def queryStep (done : List Node) : Parser (Option (List Node)) := do
  let mark ← mark
  if mark == "." || mark == "?." then
    let dot ← take .mark mark.length
    let name ← orElse privateName (takeName .propertyName)
    return some (wrap .member (playing .object done ++ dot ++ playing .property name))
  if mark == "[" && !(← onFreshLine) then
    attempt do
      let opening ← character '['
      let name : Grammar := do
        require (← atWords simpleTypes)
        takeName .keyword
      let index ← firstOf [string, number, name]
      let closing ← character ']'
      return wrap .subscript (playing .object done ++ opening ++ playing .index index ++ closing)
  else return none

def queryType : Grammar := asConstruct do
  let first ← keyword "typeof"
  let source ← if ← atWord "import" then importType cx else takeName .identifier
  let path ← growing queryStep source
  let arguments ← if (← atChar '<') && !(← onFreshLine) then typeArguments cx else pure []
  return first ++ path ++ arguments

def namedType : Grammar := asConstruct do
  let first ← if ← atWord "import" then importType cx else takeName .identifier
  let path ← growing (fun done => do
    if ← atMark "." then return some (done ++ (← sign ".") ++ (← takeName .identifier)) else return none) first
  let arguments ← if (← atChar '<') && !(← onFreshLine) then typeArguments cx else pure []
  return path ++ arguments

def primaryType : Grammar := do
  match (← rest).head? with
  | some '(' => asConstruct (enclosed '(' ')' cx.type)
  | some '[' => asConstruct (bracketed '[' ']' (tupleItem cx))
  | some '\x7b' => orElse (mappedType cx) (objectType cx)
  | some '\'' | some '"' => string
  | some '\x60' => templateOf cx.type
  | some '-' => do return construct ((← sign "-") ++ (← number))
  | some c =>
    if Text.isArabic c then number
    else if ← atWord "typeof" then queryType cx
    else namedType cx
  | none => fail

def typeSuffix (done : List Node) : Parser (Option (List Node)) := do
  if (← atChar '[') && !(← onFreshLine) then
    let opening ← character '['
    let index ← if ← atChar ']' then pure [] else cx.type
    return some (construct (done ++ opening ++ index ++ (← character ']')))
  else return none

def suffixedType : Grammar := do growing (typeSuffix cx) (← primaryType cx)

def atType : Parser Bool := do
  match (← rest).head? with
  | some c => return "([\x7b'\"\x60-".toList.contains c || Text.isArabic c || (← atName)
  | none => return false

def inferredType : Grammar := asConstruct do
  let first ← keyword "infer"
  let name ← takeName .identifier
  let bound : Grammar := do return (← keyword "extends") ++ (← cx.read .unionType)
  return first ++ name ++ (← possibly bound)

def operatorType : Grammar := do
  if ← atWord "infer" then orElse (inferredType cx) (suffixedType cx)
  else
    let before ← modifiers ["keyof", "unique", "readonly"] (do return (← atType) && !(← atWord "extends"))
    if (← atWord "infer") && !before.isEmpty then return construct (before ++ (← inferredType cx))
    let operand ← suffixedType cx
    return if before.isEmpty then operand else construct (before ++ operand)

def unionMember : Grammar := do
  if (← atChar '(') || (← atChar '<') then orElse (asConstruct (functionTypeTail cx)) (operatorType cx)
  else if (← atWord "new") || (← atWord "abstract") then orElse (asConstruct (constructorType cx)) (operatorType cx)
  else operatorType cx

def unionType : Grammar := do
  let leading ← if (← atMark "|") || (← atMark "&") then take .mark 1 else pure []
  let first ← unionMember cx
  let all ← growing (fun done => do
    if (← atMark "|") || (← atMark "&") then return some (done ++ (← take .mark 1) ++ (← unionMember cx))
    else return none) first
  return construct (leading ++ all)

def anyType : Grammar := do
  let subject ← unionType cx
  if (← atWord "extends") && !(← onFreshLine) then
    let word ← keyword "extends"
    let bound ← cx.read .unionType
    let question ← character '?'
    let yes ← cx.type
    let colon ← sign ":"
    return construct (subject ++ word ++ bound ++ question ++ yes ++ colon ++ (← cx.type))
  return subject

end EnvAudit.Script
