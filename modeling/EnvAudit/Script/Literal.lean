import EnvAudit.Failure
import EnvAudit.Script.Node
import EnvAudit.Text.Digit

/-! The values of quoted strings in scripts. -/
namespace EnvAudit.Script

def letterEscape? : Char → Option Char
  | 'n' => some '\n'
  | 'r' => some '\r'
  | 't' => some '\t'
  | '0' => some '\x00'
  | 'b' => some '\x08'
  | 'f' => some '\x0c'
  | 'v' => some '\x0b'
  | _ => none

/-- The greatest number that is taken for a code point at all. -/
def greatestCode : Nat := 0x7fffffff

def escapedCode? (body : List Char) : Option Nat :=
  let digits := body.filter fun c => c != '\x7b' && c != '\x7d'
  if digits.isEmpty then none else (digits.mapM Text.hexValue?).map (Text.valueOf 16)

/-- The text of an escape by its code: an escape beyond all code points keeps its own text, and a code that is only
half of a character gives the replacement character. -/
def codeText (sequence : List Char) (code : Nat) : Except Failure (List Char) :=
  if greatestCode < code then .error .codePointTooLarge
  else if 0x10ffff < code then .ok sequence
  else if 0xd800 ≤ code && code ≤ 0xdfff then .ok ['\ufffd']
  else .ok [Char.ofNat code]

/-- The text of an escape. An escape of several characters that is no code stands for what follows its backslash. -/
def unescape (sequence : List Char) : Except Failure (List Char) :=
  let body := sequence.drop 1
  match body with
  | c :: digits =>
    if c == 'u' || c == 'x' then
      match escapedCode? digits with
      | some code => codeText sequence code
      | none => .ok sequence
    else
      match letterEscape? c, digits with
      | some meant, [] => .ok [meant]
      | _, _ => .ok body
  | [] => .ok []

def partText (part : Node) : Except Failure (List Char) :=
  match part.kind with
  | .fragment => .ok part.text
  | .escape => unescape part.text
  | _ => .ok []

def partsText : List Node → Except Failure (List Char)
  | [] => .ok []
  | part :: rest => do return (← partText part) ++ (← partsText rest)

def literalValue? (node : Node) : Except Failure (Option String) :=
  if node.kind == .string then (partsText node.parts).map (some ∘ String.ofList) else .ok none

end EnvAudit.Script
