import EnvAudit.Text.Basic

/-! Blank characters: the white space of the Unicode standard together with the four information separators. -/
namespace EnvAudit.Text

def isBlank (c : Char) : Bool :=
  let n := c.toNat
  (0x09 ≤ n && n ≤ 0x0d) || (0x1c ≤ n && n ≤ 0x20) || n == 0x85 || n == 0xa0 || n == 0x1680 ||
    (0x2000 ≤ n && n ≤ 0x200a) || n == 0x2028 || n == 0x2029 || n == 0x202f || n == 0x205f || n == 0x3000

def trimStart (text : List Char) : List Char := text.dropWhile isBlank

def trimEnd (text : List Char) : List Char := dropEndWhile isBlank text

def trim (text : List Char) : List Char := trimEnd (trimStart text)

def words (text : List Char) : List (List Char) :=
  let (current, found) := text.foldr
    (fun c (current, found) =>
      if isBlank c then ([], if current.isEmpty then found else current :: found) else (c :: current, found))
    (([] : List Char), ([] : List (List Char)))
  if current.isEmpty then found else current :: found

end EnvAudit.Text

namespace EnvAudit

def trimmed (s : String) : String := String.ofList (Text.trim s.toList)

end EnvAudit
