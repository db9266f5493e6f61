import EnvAudit.Text.Basic
import EnvAudit.Text.Digit
import EnvAudit.Text.Printable

/-! The quoted form of a text in messages: single quotes, or double quotes when the text holds a single quote and
no double quote; characters without a visible form are written as escapes. -/
namespace EnvAudit.Text

def quoteFor (text : List Char) : Char :=
  if text.contains '\'' && !text.contains '"' then '"' else '\''

def quotedChar (quote c : Char) : List Char :=
  if c == quote || c == '\\' then ['\\', c]
  else if c == '\t' then ['\\', 't']
  else if c == '\n' then ['\\', 'n']
  else if c == '\r' then ['\\', 'r']
  else if isVisible c then [c]
  else if c.toNat < 0x100 then '\\' :: 'x' :: padZeros 2 (hexDigits c.toNat)
  else if c.toNat < 0x10000 then '\\' :: 'u' :: padZeros 4 (hexDigits c.toNat)
  else '\\' :: 'U' :: padZeros 8 (hexDigits c.toNat)

def quoted (text : List Char) : List Char :=
  let quote := quoteFor text
  quote :: text.flatMap (quotedChar quote) ++ [quote]

end EnvAudit.Text

namespace EnvAudit

def quotedString (s : String) : String := String.ofList (Text.quoted s.toList)

end EnvAudit
