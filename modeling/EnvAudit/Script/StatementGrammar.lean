import EnvAudit.Script.ModuleGrammar

/-! The grammar of statements. -/
namespace EnvAudit.Script
open EnvAudit.Script.Parser

variable (cx : Context)

def markupComment : Grammar := do
  let text ← rest
  require ("<!--".toList.isPrefixOf text || "-->".toList.isPrefixOf text)
  take .comment (text.takeWhile fun c => !endsLine c).length

def blockOf : Grammar :=
  asConstruct (enclosed '\x7b' '\x7d' (manyUntil (fun r => r.rest.head? == some '\x7d') cx.statement))

def expressionStatement : Grammar := do
  let value ← cx.sequence
  return construct value ++ (← semicolon)

def condition : Grammar := parenthesized cx

def ifStatement : Grammar := asConstruct do
  let word ← keyword "if"
  let test ← condition cx
  let yes ← cx.statement
  let no ← given (atWord "else") do return construct ((← keyword "else") ++ (← cx.statement))
  return word ++ test ++ yes ++ no

def whileStatement : Grammar := asConstruct do
  return (← keyword "while") ++ (← condition cx) ++ (← cx.statement)

def withStatement : Grammar := asConstruct do
  return (← keyword "with") ++ (← condition cx) ++ (← cx.statement)

def doStatement : Grammar := asConstruct do
  let word ← keyword "do"
  let body ← cx.statement
  return word ++ body ++ (← keyword "while") ++ (← condition cx) ++ (← signIf ";")

def entryLoop : Grammar := do
  let declared : Grammar := do return (← variableWord) ++ (← cx.binding)
  let target ← orElse (do let nodes ← declared; require (← atWords ["in", "of"]); return nodes) (cx.read .unary)
  require (← atWords ["in", "of"])
  return target ++ (← takeName .keyword) ++ (← cx.sequence)

def countedLoop : Grammar := do
  let start ←
    if ← atMark ";" then pure []
    else orElse (asConstruct (variableList cx { noIn := true })) (cx.read (.sequence { noIn := true }))
  let first ← sign ";"
  let test ← if ← atMark ";" then pure [] else cx.sequence
  let second ← sign ";"
  let step ← if ← atChar ')' then pure [] else cx.sequence
  return start ++ first ++ test ++ second ++ step

def forStatement : Grammar := asConstruct do
  let word ← keyword "for"
  let waiting ← keywordIf "await"
  let opening ← character '('
  let header : Grammar := do return (← entryLoop cx) ++ (← character ')')
  let counted : Grammar := do return (← countedLoop cx) ++ (← character ')')
  let head ← orElse header counted
  return word ++ waiting ++ opening ++ head ++ (← cx.statement)

def atNextCase (r : Reading) : Bool :=
  r.rest.head? == some '\x7d' || ["case", "default"].contains (String.ofList (r.rest.take (nameLength r.rest)))

def switchCase : Grammar := asConstruct do
  let tested : Grammar := do return (← keyword "case") ++ (← cx.sequence)
  let head ← orElse tested (keyword "default")
  let colon ← sign ":"
  return head ++ colon ++ (← manyUntil atNextCase cx.statement)

def switchStatement : Grammar := asConstruct do
  let word ← keyword "switch"
  let subject ← condition cx
  let cases ← enclosed '\x7b' '\x7d' (manyUntil (fun r => r.rest.head? == some '\x7d') (switchCase cx))
  return word ++ subject ++ construct cases

def catchClause : Grammar := asConstruct do
  let word ← keyword "catch"
  let caught ←
    if ← atChar '(' then enclosed '(' ')' (do return (← cx.binding) ++ (← annotationIf cx)) else pure []
  return word ++ caught ++ (← cx.block)

def tryStatement : Grammar := asConstruct do
  let word ← keyword "try"
  let body ← cx.block
  let caught ← given (atWord "catch") (catchClause cx)
  let last ← given (atWord "finally") do return construct ((← keyword "finally") ++ (← cx.block))
  return word ++ body ++ caught ++ last

def endsAfterWord : Parser Bool := do
  match (← rest).head? with
  | some c => return c == ';' || c == '\x7d' || (← onFreshLine)
  | none => return true

def jumpStatement (name : String) : Grammar := do
  let word ← keyword name
  let label ← if ← endsAfterWord then pure [] else takeName .identifier
  return construct (word ++ label) ++ (← closedEnd)

def returnStatement : Grammar := do
  let word ← keyword "return"
  if ← endsAfterWord then return construct word ++ (← closedEnd)
  return construct (word ++ (← cx.sequence)) ++ (← semicolon)

def throwStatement : Grammar := do
  let word ← keyword "throw"
  return construct (word ++ (← cx.sequence)) ++ (← semicolon)

def debuggerStatement : Grammar := do
  let word ← keyword "debugger"
  return construct word ++ (← closedEnd)

def labeledStatement : Grammar := do
  let label ← takeName .identifier
  let colon ← sign ":"
  return construct (label ++ colon ++ (← cx.statement))

def decoratedStatement : Grammar := asConstruct do
  let notes ← decorators cx
  return notes ++ (← orElse (classStatement cx) (exportStatement cx))

def wordStatement? (first : String) : Option Grammar :=
  match first with
  | "if" => some (ifStatement cx)
  | "for" => some (forStatement cx)
  | "while" => some (whileStatement cx)
  | "do" => some (doStatement cx)
  | "switch" => some (switchStatement cx)
  | "try" => some (tryStatement cx)
  | "with" => some (withStatement cx)
  | "break" => some (jumpStatement "break")
  | "continue" => some (jumpStatement "continue")
  | "return" => some (returnStatement cx)
  | "throw" => some (throwStatement cx)
  | "debugger" => some debuggerStatement
  | "var" => some (variableStatement cx)
  | "const" => some (orElse (enumStatement cx) (variableStatement cx))
  | "export" => some (exportStatement cx)
  | _ => none

def nameStatements (first : String) : List Grammar :=
  match first with
  | "let" => [variableStatement cx]
  | "function" | "async" => [functionStatement cx]
  | "class" | "abstract" => [classStatement cx]
  | "import" => [importStatement cx]
  | "enum" => [enumStatement cx]
  | "type" => [typeStatement cx]
  | "interface" => [interfaceStatement cx]
  | "namespace" | "module" => [namespaceStatement cx]
  | "declare" => [ambientStatement cx]
  | _ => []

/-- Any statement. Braces are tried as a block before they are tried as an object. -/
def anyStatement : Grammar := do
  match (← rest).head? with
  | some '\x7b' => orElse (blockOf cx) (expressionStatement cx)
  | some ';' => take .mark 1
  | some '@' => decoratedStatement cx
  | some '<' => orElse markupComment (expressionStatement cx)
  | some '-' => orElse markupComment (expressionStatement cx)
  | _ =>
    let first := String.ofList (← word)
    match wordStatement? cx first with
    | some grammar => grammar
    | none => firstOf (nameStatements cx first ++ [labeledStatement cx, expressionStatement cx])

end EnvAudit.Script
