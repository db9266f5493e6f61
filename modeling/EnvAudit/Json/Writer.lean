import EnvAudit.Json.Value

/-! The JSON writer. The text is plain ASCII; with an indentation every item stands on a line of its own. -/
namespace EnvAudit.Json

def unitEscape (unit : Nat) : List Char := '\\' :: 'u' :: Text.padZeros 4 (Text.hexDigits unit)

def escapedChar (c : Char) : List Char :=
  if c == '"' then ['\\', '"']
  else if c == '\\' then ['\\', '\\']
  else if c == '\n' then ['\\', 'n']
  else if c == '\r' then ['\\', 'r']
  else if c == '\t' then ['\\', 't']
  else if c == '\x0c' then ['\\', 'f']
  else if c == '\x08' then ['\\', 'b']
  else if 0x20 ≤ c.toNat && c.toNat < 0x7f then [c]
  else if c.toNat < 0x10000 then unitEscape c.toNat
  else unitEscape (0xd800 + (c.toNat - 0x10000) / 0x400) ++ unitEscape (0xdc00 + (c.toNat - 0x10000) % 0x400)

def literal (s : String) : String := String.ofList ('"' :: s.toList.flatMap escapedChar ++ ['"'])

def separator : Option Nat → Nat → String
  | none, _ => ", "
  | some indent, level => ",\n" ++ String.ofList (List.replicate (indent * level) ' ')

def margin : Option Nat → Nat → String
  | none, _ => ""
  | some indent, level => "\n" ++ String.ofList (List.replicate (indent * level) ' ')

mutual

def writeAt (indent : Option Nat) (level : Nat) : Json → String
  | .null => "null"
  | .bool b => if b then "true" else "false"
  | .int n => toString n
  | .real r => r.write "Infinity" "NaN"
  | .text s => literal s
  | .list [] => "[]"
  | .list (item :: rest) =>
    "[" ++ margin indent (level + 1) ++ writeAt indent (level + 1) item ++ writeItems indent (level + 1) rest
      ++ margin indent level ++ "]"
  | .object [] => "\x7b\x7d"
  | .object ((name, value) :: rest) =>
    "\x7b" ++ margin indent (level + 1) ++ literal name ++ ": " ++ writeAt indent (level + 1) value
      ++ writeFields indent (level + 1) rest ++ margin indent level ++ "\x7d"

def writeItems (indent : Option Nat) (level : Nat) : List Json → String
  | [] => ""
  | item :: rest => separator indent level ++ writeAt indent level item ++ writeItems indent level rest

def writeFields (indent : Option Nat) (level : Nat) : List (String × Json) → String
  | [] => ""
  | (name, value) :: rest =>
    separator indent level ++ literal name ++ ": " ++ writeAt indent level value ++ writeFields indent level rest

end

def write (indent : Option Nat) (value : Json) : String := writeAt indent 0 value

end EnvAudit.Json
