import EnvAudit.Script.ExpressionGrammar

/-! The grammar of markup in scripts: elements with attributes, and between their tags text, entities, other elements
and expressions in braces. Blanks belong to the text, so an element ends right behind its last tag. -/
namespace EnvAudit.Script
open EnvAudit.Script.Parser

variable (cx : Context)

def markupNameLength (text : List Char) : Nat :=
  match nameLength text with
  | 0 => 0
  | length => length + ((text.drop length).takeWhile fun c => c == '-' || continuesName c).length

def markupName (kind : Kind) : Grammar := do
  let length := markupNameLength (← rest)
  require (0 < length)
  take kind length

def elementName : Grammar := do
  let first ← markupName .identifier
  if ← atMark ":" then return construct (first ++ (← sign ":") ++ (← markupName .identifier))
  growing decoratorStep first

def embedded : Grammar := do
  let opening ← character '\x7b'
  let content ← if ← atChar '\x7d' then pure [] else if ← atMark "..." then spreadable cx else cx.sequence
  require (← atChar '\x7d')
  return opening ++ content

def attributeText : Grammar := do
  let text ← rest
  let quote := text.head?.getD ' '
  require (quote == '\'' || quote == '"')
  let opening ← takeRaw .mark 1
  let length := (text.drop 1).takeWhile (· != quote) |>.length
  let content ← if 0 < length then takeRaw .fragment length else pure []
  require (← atChar quote)
  return wrap .string (opening ++ content ++ (← take .mark 1))

def attributeValue : Grammar := do
  match (← rest).head? with
  | some '\x7b' => asConstruct do return (← embedded cx) ++ (← take .mark 1)
  | some '<' => markup cx
  | _ => attributeText

def elementAttribute : Grammar := asConstruct do
  if ← atChar '\x7b' then return (← embedded cx) ++ (← take .mark 1)
  let name ← markupName .propertyName
  let space ← given (atMark ":") do return (← sign ":") ++ (← markupName .propertyName)
  let value ← given (atChar '=') do return (← character '=') ++ (← attributeValue cx)
  return name ++ space ++ value

def entityLength (text : List Char) : Nat :=
  let closed (start most : Nat) (among : Char → Bool) : Nat :=
    let length := ((text.drop start).takeWhile among).length
    if 0 < length && length ≤ most && text[start + length]? == some ';' then start + length + 1 else 0
  match text with
  | '&' :: '#' :: 'x' :: _ => closed 3 6 fun c => (Text.hexValue? c).isSome
  | '&' :: '#' :: 'X' :: _ => closed 3 6 fun c => (Text.hexValue? c).isSome
  | '&' :: '#' :: _ => closed 2 5 Text.isArabic
  | '&' :: _ => closed 1 30 Text.isLatin
  | _ => 0

def endsMarkupText (c : Char) : Bool := "<>\x7b\x7d&".toList.contains c

def markupChild : Grammar := do
  let text ← rest
  match text.head? with
  | some '<' => cx.read .markup
  | some '\x7b' => asConstruct do return (← embedded cx) ++ (← takeRaw .mark 1)
  | some '&' =>
    let length := entityLength text
    require (0 < length)
    takeRaw .markupText length
  | _ =>
    let length := (text.takeWhile fun c => !endsMarkupText c).length
    require (0 < length)
    takeRaw .markupText length

def atClosingTag (r : Reading) : Bool := "</".toList.isPrefixOf r.rest

def element : Grammar := asConstruct do
  let opening ← character '<'
  let name ← given atName elementName
  let types ← if (← atChar '<') && !name.isEmpty then typeArguments cx else pure []
  let attributes ←
    if name.isEmpty then pure []
    else manyUntil (fun r => r.rest.head? == some '>' || r.rest.head? == some '/') (elementAttribute cx)
  let tag := opening ++ name ++ types ++ attributes
  if (← atChar '/') && !name.isEmpty then
    let slash ← character '/'
    require (← atChar '>')
    return tag ++ slash ++ (← takeRaw .mark 1)
  require (← atChar '>')
  let opened ← takeRaw .mark 1
  let content ← manyUntil atClosingTag (markupChild cx)
  let closing ← take .mark 2
  let closedName ← given atName elementName
  require (← atChar '>')
  return tag ++ opened ++ content ++ closing ++ closedName ++ (← takeRaw .mark 1)

end EnvAudit.Script
