import EnvAudit.Script.BindingGrammar
import EnvAudit.Script.Operator

/-! The grammar of expressions. -/
namespace EnvAudit.Script
open EnvAudit.Script.Parser

variable (cx : Context)

def arrowBody (mode : Mode) : Grammar := do
  let arrow ← sign "=>"
  let body ← if ← atChar '\x7b' then orElse cx.block (cx.read (.expression mode)) else cx.read (.expression mode)
  return arrow ++ body

def arrowHead (typed : Bool) : Grammar := do
  if ← atName then takeName .identifier
  else
    let types ← typeParametersIf cx
    let parameters ← cx.parameters
    return types ++ parameters ++ (← if typed then resultIf cx else pure [])

def asyncArrow (mode : Mode) (typed : Bool) : Grammar := do
  let word ← keyword "async"
  require (!(← onFreshLine))
  let head ← arrowHead cx typed
  return construct (word ++ head ++ (← arrowBody cx mode))

def arrow (mode : Mode) (typed : Bool) : Grammar := do
  require ((← atName) || (← atChar '(') || (← atChar '<'))
  let plain : Grammar := do
    let head ← arrowHead cx typed
    return construct (head ++ (← arrowBody cx mode))
  if ← atWord "async" then orElse (asyncArrow cx mode typed) plain else plain

def functionExpression : Grammar := asConstruct do
  let before ← keywordIf "async"
  let word ← keyword "function"
  let star ← signIf "*"
  let name ← given atName (takeName .identifier)
  return before ++ word ++ star ++ name ++ (← functionTail cx)

def classExpression : Grammar := asConstruct do
  let notes ← decorators cx
  let word ← keyword "class"
  let name ←
    if (← atName) && !(← atWords ["extends", "implements"]) then takeName .identifier else pure []
  let types ← typeParametersIf cx
  return notes ++ word ++ name ++ types ++ (← cx.read .classTail)

def methodModifiers : List String := ["async", "get", "set"]

def namedEntry : Grammar := do
  let before ← modifiers methodModifiers (do return (← atPropertyName) || (← atChar '*'))
  let star ← signIf "*"
  let name ← propertyName cx
  if (← atChar '(') || (← atChar '<') then
    return construct (before ++ star ++ name ++ (← functionTail cx))
  require (before.isEmpty && star.isEmpty)
  if ← atMark ":" then return construct (playing .key name ++ (← sign ":") ++ playing .value (← cx.expression))
  require (kindOf name == some .propertyName)
  if ← atMark "=" then return construct (name ++ (← sign "=") ++ (← cx.expression))
  return name

def objectItem : Grammar := do if ← atMark "..." then spreadable cx else namedEntry cx

def objectLiteral : Grammar := return wrap .object (← bracketedLoosely '\x7b' '\x7d' (objectItem cx))

def arrayLiteral : Grammar := return wrap .array (← bracketedLoosely '[' ']' (spreadable cx))

def parenthesized : Grammar := return wrap .parenthesized (← enclosed '(' ')' cx.sequence)

def importExpression : Grammar := do
  let word ← keyword "import"
  let aboutModule : Grammar := do
    let dot ← sign "."
    return wrap .metaProperty (word ++ dot ++ (← keyword "meta"))
  let other : Grammar := do
    require ((← atMark ".") || (← atChar '('))
    return word
  orElse aboutModule other

def valueWords : List String := ["this", "super", "true", "false", "null"]

def nameExpression : Grammar := do
  let text ← word
  match String.ofList text with
  | "function" => functionExpression cx
  | "class" => classExpression cx
  | "import" => importExpression
  | "async" => orElse (functionExpression cx) (takeName .identifier)
  | name => takeName (if valueWords.contains name then .keyword else .identifier)

def markup : Grammar := do
  require cx.allowsMarkup
  let nodes ← cx.read .markup
  settle
  return nodes

def primary : Grammar := do
  match (← rest).head? with
  | some '(' => parenthesized cx
  | some '[' => arrayLiteral cx
  | some '\x7b' => objectLiteral cx
  | some '\'' | some '"' => string
  | some '\x60' => templateOf cx.sequence
  | some '/' => regex
  | some '<' => markup cx
  | some '@' => classExpression cx
  | some '.' => number
  | some c => if Text.isArabic c then number else nameExpression cx
  | none => fail

def memberOf (done : List Node) : Grammar := do
  let dot ← take .mark (← mark).length
  let name ← orElse privateName (takeName .propertyName)
  return wrap .member (playing .object done ++ dot ++ playing .property name)

def subscriptOf (done dot : List Node) : Grammar := do
  let opening ← character '['
  let index ← cx.sequence
  return wrap .subscript (playing .object done ++ dot ++ opening ++ playing .index index ++ (← character ']'))

def callOf (done between : List Node) : Grammar :=
  return wrap .call (playing .function done ++ between ++ playing .arguments (← arguments cx))

def templateCallOf (done between : List Node) : Grammar :=
  return wrap .call (playing .function done ++ between ++ playing .arguments (← templateOf cx.sequence))

def endsExpression : Parser Bool := do
  match (← rest).head? with
  | some c => return ");,]\x7d:=?.&|".toList.contains c || (← onFreshLine)
  | none => return true

def instantiationOf (called : Bool) (done : List Node) : Grammar := do
  let types ← typeArguments cx
  if (← atChar '(') && called then return ← callOf cx done types
  if (← atChar '\x60') && called then return ← templateCallOf cx done types
  require (!called || (← endsExpression))
  return construct (done ++ types)

def accessStep (called : Bool) (done : List Node) : Parser (Option (List Node)) := do
  let next ← mark
  match next with
  | "." => return some (← memberOf done)
  | "?." =>
    if !called then return none
    let chained : Grammar := do
      let dot ← sign "?."
      match (← rest).head? with
      | some '[' => subscriptOf cx done dot
      | some '(' => callOf cx done dot
      | some '<' => return ← callOf cx done (dot ++ (← typeArguments cx))
      | some '\x60' => templateCallOf cx done dot
      | _ => fail
    return some (← orElse chained (memberOf done))
  | "[" => return some (← subscriptOf cx done [])
  | "\x60" => return some (← templateCallOf cx done [])
  | "(" => if called then return some (← callOf cx done []) else return none
  | "<" | "<<" => attempt (instantiationOf cx called done)
  | "!" => if ← onFreshLine then return none else return some (wrap .nonNull (done ++ (← sign "!")))
  | _ => return none

def accessed (called : Bool) (start : List Node) : Grammar := growing (accessStep cx called) start

def newExpression : Nat → Grammar
  | 0 => fail
  | bound + 1 => do
    let word ← keyword "new"
    if ← atMark "." then return wrap .metaProperty (word ++ (← sign ".") ++ (← keyword "target"))
    let maker ← if ← atWord "new" then newExpression bound else primary cx
    let path ← accessed cx false maker
    return construct (word ++ path ++ (← given (atChar '(') (arguments cx)))

def operand : Grammar := do
  if ← atWord "new" then return ← accessed cx true (← newExpression cx ((← get).left + 1))
  let first ←
    if (← atName) || (← atChar '(') || (← atChar '<') then orElse (arrow cx {} false) (primary cx)
    else primary cx
  accessed cx true first

def typedOperand : Grammar := do
  require (!cx.allowsMarkup)
  return construct ((← typeArguments cx) ++ (← cx.read .unary))

def operatorWords : List String := ["typeof", "void", "delete", "await"]

def prefixed : Grammar := do
  let next ← mark
  if ["!", "~", "+", "-", "++", "--"].contains next then
    return construct ((← take .mark next.length) ++ (← cx.read .unary))
  if ← atWords operatorWords then
    let operation : Grammar := do return construct ((← takeName .keyword) ++ (← cx.read .unary))
    return ← orElse operation (operand cx)
  if next == "<" then return ← orElse (typedOperand cx) (operand cx)
  if next == "#" then
    let name ← privateName
    require (← atWord "in")
    return name
  operand cx

def counted (value : List Node) : Grammar := do
  if !(← onFreshLine) && ((← atMark "++") || (← atMark "--")) then return construct (value ++ (← take .mark 2))
  return value

def unary : Grammar := do counted (← prefixed cx)

def operatorAt (mode : Mode) : Parser (Option (String × Binding)) := do
  let text ← if ← atName then pure (String.ofList (← word)) else mark
  if mode.noIn && text == "in" then return none
  return (bindingOf? text).map fun binding => (text, binding)

/-- Goes on after an operand: operators with further operands, and assertions about the type of all that is read,
which bind more loosely than any operator. -/
def operations (mode : Mode) : Nat → List Pending → List Node → Grammar
  | 0, _, _ => fail
  | bound + 1, pending, right => do
    match ← operatorAt mode with
    | some (text, binding) =>
      let (outer, left) := closeBefore binding pending right
      let operator ← take (if text.toList.all Text.isLatin then .keyword else .mark) text.length
      operations mode bound (⟨left, operator, binding⟩ :: outer) (← cx.read .unary)
    | none =>
      if (← atWords ["as", "satisfies"]) && !(← onFreshLine) then
        let kind := if ← atWord "as" then Kind.asserted else Kind.satisfied
        let all := closeAll pending right
        let word ← takeName .keyword
        operations mode bound [] (wrap kind (all ++ word ++ (← cx.type)))
      else return closeAll pending right

/-- One of two values by a condition. The first one is read again without result types in its arrow functions if the
colon was taken for the start of one. -/
def choice (mode : Mode) (condition : List Node) : Grammar := do
  let question ← sign "?"
  let upToColon (mode : Mode) : Grammar := do
    let yes ← cx.read (.expression mode)
    return yes ++ (← sign ":")
  let yes ← orElse (upToColon {}) (upToColon { noTyped := true })
  return construct (condition ++ question ++ yes ++ (← cx.read (.expression mode)))

def isTarget (nodes : List Node) : Bool :=
  match kindOf nodes with
  | some kind =>
    [Kind.identifier, .member, .subscript, .parenthesized, .nonNull, .object, .array].contains kind
  | none => false

def expressionFrom (mode : Mode) (first : List Node) : Grammar := do
  let next ← mark
  if assignmentSigns.contains next then
    require (isTarget first)
    let assigned ← take .mark next.length
    return construct (first ++ assigned ++ (← cx.read (.expression mode)))
  let condition ← operations cx mode ((← get).left + 1) [] first
  if ← atMark "?" then choice cx mode condition else return condition

def yieldExpression (mode : Mode) : Grammar := do
  let word ← keyword "yield"
  let star ← signIf "*"
  if star.isEmpty && ((← onFreshLine) || (← endsExpression)) then return construct word
  return construct (word ++ star ++ (← cx.read (.expression mode)))

def expression (mode : Mode) : Grammar := do
  if ← atWord "yield" then return ← orElse (yieldExpression cx mode) (do expressionFrom cx mode (← unary cx))
  let first ← orElse (do accessed cx true (← arrow cx mode (!mode.noTyped))) (unary cx)
  expressionFrom cx mode first

def sequence (mode : Mode) : Grammar := do
  let first ← cx.read (.expression mode)
  let all ← growing (fun done => do
    if ← atMark "," then return some (done ++ (← sign ",") ++ (← cx.read (.expression mode))) else return none) first
  return if all.length == first.length then first else construct all

end EnvAudit.Script
