import EnvAudit.Script.ClassGrammar
import EnvAudit.Script.ExpressionGrammar

/-! The grammar of declarations: variables, functions, classes, types, and what modules import and export. -/
namespace EnvAudit.Script
open EnvAudit.Script.Parser

variable (cx : Context)

def closedEnd : Grammar := semicolonAfter true

def declarator (mode : Mode) : Grammar := do
  let name := playing .name (← cx.binding)
  let mark ← signIf "!"
  let type ← annotationIf cx
  if ← atMark "=" then
    let assigned ← sign "="
    return wrap .declarator (name ++ mark ++ type ++ assigned ++ playing .value (← cx.read (.expression mode)))
  return wrap .declarator (name ++ mark ++ type)

def variableWord : Grammar := firstOf [keyword "var", keyword "let", keyword "const"]

def variableList (mode : Mode) : Grammar := return (← variableWord) ++ (← commaSome (declarator cx mode))

def endsWithValue (nodes : List Node) : Bool := ((nodes.getLast?.bind (Node.part? .value)).isSome)

def variableStatement : Grammar := do
  let declared ← variableList cx {}
  return construct declared ++ (← semicolonAfter !(endsWithValue declared))

def functionStatement : Grammar := do
  let before ← keywordIf "async"
  let word ← keyword "function"
  let star ← signIf "*"
  let name ← takeName .identifier
  let described ← signature cx
  let head := before ++ word ++ star ++ name ++ described
  if ← atChar '\x7b' then return construct (head ++ (← cx.block))
  return construct head ++ (← closedEnd)

def classStatement : Grammar := asConstruct do
  let before ← keywordIf "abstract"
  let word ← keyword "class"
  require (!(← atWords ["extends", "implements"]))
  let name ← takeName .identifier
  let types ← typeParametersIf cx
  return before ++ word ++ name ++ types ++ (← cx.read .classTail)

def enumMember : Grammar := asConstruct do return (← propertyName cx) ++ (← defaultIf cx)

def enumStatement : Grammar := asConstruct do
  let before ← keywordIf "const"
  let word ← keyword "enum"
  let name ← takeName .identifier
  return before ++ word ++ name ++ (← bracketed '\x7b' '\x7d' (enumMember cx))

def typeStatement : Grammar := do
  let word ← keyword "type"
  let name ← takeName .identifier
  let types ← typeParametersIf cx
  let equals ← sign "="
  return construct (word ++ name ++ types ++ equals ++ (← cx.type)) ++ (← closedEnd)

def interfaceStatement : Grammar := asConstruct do
  let word ← keyword "interface"
  let name ← takeName .identifier
  let types ← typeParametersIf cx
  let extended ← given (atWord "extends") do return (← keyword "extends") ++ (← commaSome cx.type)
  return word ++ name ++ types ++ extended ++ (← objectType cx)

def dottedName : Grammar := do
  growing (fun done => do
    if ← atMark "." then return some (done ++ (← sign ".") ++ (← takeName .identifier)) else return none)
    (← takeName .identifier)

def namespaceStatement : Grammar := do
  let word ← orElse (keyword "namespace") (keyword "module")
  require (!(← onFreshLine))
  let name ← orElse string dottedName
  if ← atChar '\x7b' then return construct (word ++ name ++ (← cx.block))
  require (kindOf name == some .string)
  return construct (word ++ name) ++ (← closedEnd)

def ambientStatement : Grammar := asConstruct do
  let word ← keyword "declare"
  require (!(← onFreshLine))
  if ← atWord "global" then return word ++ (← takeName .keyword) ++ (← cx.block)
  let declared : Grammar := do
    require (← atWords ["var", "let", "const", "function", "async", "class", "abstract", "enum", "type", "interface",
      "namespace", "module", "import"])
    cx.statement
  return word ++ (← declared)

def moduleName : Grammar := orElse string (takeName .identifier)

def moduleItem : Grammar := asConstruct do
  let renamed : Grammar := do return (← moduleName) ++ (← keyword "as") ++ (← moduleName)
  let item : Grammar := do
    let nodes ← orElse renamed moduleName
    require ((← atChar ',') || (← atChar '\x7d'))
    return nodes
  orElse item (do return (← orElse (keyword "type") (keyword "typeof")) ++ (← item))

def moduleItems : Grammar := bracketed '\x7b' '\x7d' moduleItem

def wholeModule : Grammar := return (← sign "*") ++ (← keyword "as") ++ (← moduleName)

def importClause : Grammar := do
  if ← atChar '\x7b' then return ← moduleItems
  if ← atMark "*" then return ← wholeModule
  let name ← takeName .identifier
  if ← atMark "," then return name ++ (← sign ",") ++ (← orElse moduleItems wholeModule)
  return name

def moduleTraits : Grammar := do
  if (← atWords ["with", "assert"]) && !(← onFreshLine) then return (← takeName .keyword) ++ (← objectLiteral cx)
  else return []

def moduleSource : Grammar := return (← keyword "from") ++ (← string) ++ (← moduleTraits cx)

def importAlias : Grammar := do
  let name ← takeName .identifier
  let equals ← sign "="
  let required : Grammar := do return (← keyword "require") ++ (← enclosed '(' ')' string)
  return name ++ equals ++ (← orElse required dottedName)

def importStatement : Grammar := do
  let word ← keyword "import"
  let clause : Grammar := do return (← importClause) ++ (← moduleSource cx)
  let kind := orElse (keyword "type") (keyword "typeof")
  let content ← firstOf
    [do return (← string) ++ (← moduleTraits cx), clause, importAlias, do return (← kind) ++ (← clause),
      do return (← kind) ++ (← importAlias)]
  return construct (word ++ content) ++ (← closedEnd)

def defaultExport : Grammar := do
  let word ← keyword "default"
  let declared : Grammar := do
    let notes ← decorators cx
    if ← atWords ["class", "abstract"] then
      return notes ++ (← keywordIf "abstract") ++ (← classExpression cx)
    if ← atWord "interface" then return ← interfaceStatement cx
    orElse (functionExpression cx) (functionStatement cx)
  let value : Grammar := do return (← cx.expression) ++ (← semicolon)
  return word ++ (← orElse declared value)

def exportedItems : Grammar := do
  let kind ← keywordIf "type"
  let items ← moduleItems
  return kind ++ items ++ (← given (atWord "from") (moduleSource cx)) ++ (← closedEnd)

def exportedModule : Grammar := do
  let kind ← keywordIf "type"
  let items ← orElse wholeModule (sign "*")
  return kind ++ items ++ (← moduleSource cx) ++ (← closedEnd)

def exportStatement : Grammar := asConstruct do
  let word ← keyword "export"
  let assigned : Grammar := do return (← sign "=") ++ (← cx.expression) ++ (← semicolon)
  let global : Grammar := do
    return (← keyword "as") ++ (← keyword "namespace") ++ (← takeName .identifier) ++ (← closedEnd)
  let declared : Grammar := do
    require (!(← atEnd))
    require ((← atMark "@") || (← atWords ["var", "let", "const", "function", "async", "class", "abstract", "enum",
      "type", "interface", "namespace", "module", "declare", "import"]))
    cx.statement
  return word ++ (← firstOf [defaultExport cx, exportedItems cx, exportedModule cx, assigned, global, declared])

end EnvAudit.Script
