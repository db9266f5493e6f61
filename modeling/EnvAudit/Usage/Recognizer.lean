import EnvAudit.Script.Cursor
import EnvAudit.Script.Literal
import EnvAudit.Usage.Site

/-! Reads in syntax trees. A node is a read if it takes a member or an entry from one of the objects that hold
variables, or unpacks such an object into names. -/
namespace EnvAudit.Usage.Recognizer
open Script

def isTransparent (node : Node) : Bool := [Kind.parenthesized, .nonNull, .asserted, .satisfied].contains node.kind

mutual

/-- The expression under parentheses and assertions; a comment that comes first stands for it. -/
def core? : Node → Option Node
  | .mk kind role start stop text parts =>
    if isTransparent (.mk kind role start stop text parts) then coreOf? parts
    else some (.mk kind role start stop text parts)

def coreOf? : List Node → Option Node
  | [] => none
  | part :: rest => if part.isNamed then core? part else coreOf? rest

end

def corePart? (role : Role) (node : Node) : Option Node := (node.part? role).bind core?

def isWritten (node : Node) (text : String) : Bool := node.tokens == text.toList

def isNameOf (text : String) (node : Node) : Bool := node.kind == .identifier && isWritten node text

def isModuleInfo (node : Node) : Bool :=
  (node.kind == .metaProperty || node.kind == .member) && isWritten node "import.meta"

def chainOf? (node : Node) : Option Chain := do
  let access ← core? node
  let property ← access.part? .property
  if access.kind != .member || property.kind != .propertyName || !isWritten property "env" then none
  let holder ← corePart? .object access
  if isNameOf "process" holder then return .server
  if isModuleInfo holder then return .client
  none

def objectChain? (node : Node) : Option Chain := (node.part? .object).bind chainOf?

def context? (c : Cursor) : Option Node := c.ancestors.find? fun node => !isTransparent node && node.kind != .arguments

def numericFunctions : List String := ["parseInt", "parseFloat", "Number"]

def equalitySigns : List String := ["==", "===", "!=", "!=="]

def shapeForCall? (callee : Node) : Option Shape :=
  if callee.kind == .identifier && numericFunctions.any (isWritten callee) then some .number
  else if callee.kind == .member && ((callee.part? .object).any (isNameOf "JSON"))
      && ((callee.part? .property).any (isWritten · "parse")) then some .json
  else none

/-- Whether the operand on one side is another node than the read and is the text of a truth value. -/
def isTruthText (read comparison : Node) (side : Role) : Except Failure Bool :=
  match corePart? side comparison with
  | some operand =>
    if operand.encloses read then .ok false
    else (literalValue? operand).map fun value => value == some "true" || value == some "false"
  | none => .ok false

def shapeForComparison? (read comparison : Node) : Except Failure (Option Shape) := do
  if !(comparison.part? .operator).any fun operator => equalitySigns.any (isWritten operator) then return none
  let left ← isTruthText read comparison .left
  if left then return some .boolean
  let right ← isTruthText read comparison .right
  return if right then some .boolean else none

def shapeOf? (c : Cursor) : Except Failure (Option Shape) :=
  match context? c with
  | none => .ok none
  | some context =>
    match context.kind with
    | .call =>
      .ok ((corePart? .function context).bind fun callee =>
        if callee.encloses c.node then none else shapeForCall? callee)
    | .binary => shapeForComparison? c.node context
    | .member => .ok (if (context.part? .property).any (isWritten · "split") then some .array else none)
    | _ => .ok none

def usageAt (site : Site) (node : Node) (name : String) (access : Access) (chain : Chain) (shape : Option Shape) :
    Usage :=
  { name, file := site.file, line := node.start.row + 1, column := node.start.column, access, shape,
    isClientSide := site.isClientSide chain name }

def ofMember (site : Site) (c : Cursor) : Except Failure (List Usage) := do
  match objectChain? c.node, c.node.part? .property with
  | some chain, some property =>
    if property.kind != .propertyName then return []
    return [usageAt site c.node (String.ofList property.tokens) .direct chain (← shapeOf? c)]
  | _, _ => return []

def indexName? (node : Node) : Except Failure (Option String) :=
  match corePart? .index node with
  | some index => literalValue? index
  | none => .ok none

def ofSubscript (site : Site) (c : Cursor) : Except Failure (List Usage) := do
  match ← indexName? c.node, objectChain? c.node with
  | _, none => return []
  | some name, some chain => return [usageAt site c.node name .bracket chain (← shapeOf? c)]
  | none, some chain => return [usageAt site c.node dynamicName .dynamic chain none]

def keyOf? (entry : Node) : Option Node :=
  match entry.kind with
  | .shorthandName => some entry
  | .pairPattern => (entry.part? .key).filter fun key => key.kind == .propertyName || key.kind == .string
  | .assignmentPattern => (entry.part? .left).filter (·.kind == .shorthandName)
  | _ => none

def entryName? (entry : Node) : Except Failure (Option String) :=
  match keyOf? entry with
  | some key => if key.kind == .string then literalValue? key else .ok (some (String.ofList key.tokens))
  | none => .ok none

/-- The read of one entry of a pattern; an empty name reads nothing. -/
def ofEntry (site : Site) (chain : Chain) (entry : Node) : Except Failure (List Usage) := do
  match ← entryName? entry with
  | some name => return if name == "" then [] else [usageAt site entry name .destructure chain none]
  | none => return []

def ofDeclarator (site : Site) (node : Node) : Except Failure (List Usage) := do
  match (node.part? .value).bind chainOf?, node.part? .name with
  | some chain, some pattern =>
    if pattern.kind != .objectPattern then return []
    return (← pattern.namedParts.mapM (ofEntry site chain)).flatten
  | _, _ => return []

def usagesAt (site : Site) (c : Cursor) : Except Failure (List Usage) :=
  match c.node.kind with
  | .member => ofMember site c
  | .subscript => ofSubscript site c
  | .declarator => ofDeclarator site c.node
  | _ => .ok []

def usages (site : Site) (tree : Node) : Except Failure (List Usage) :=
  return (← (Cursor.walk tree).mapM (usagesAt site)).flatten

end EnvAudit.Usage.Recognizer
