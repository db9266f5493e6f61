import EnvAudit.Json.Reader
import EnvAudit.Toml.Value

/-! Why a text is no TOML document. -/
namespace EnvAudit.Toml

inductive Flaw
  | noStatement
  | noLineEnd
  | noKey
  | noEquals
  | noValue
  | noTableEnd
  | noListEnd
  | openList
  | openInlineTable
  | openString
  | loneBackslash
  | badHex
  | noCharacter
  | badDate
  | illegal (c : Char)
  | forbidden (c : Char)
  | missing (closing : String)
  | declaredTwice (key : Key)
  | closed (key : Key)
  | redefined (key : Key)
  | duplicate (name : String)
  | overwritten
deriving Repr, DecidableEq

def Flaw.reason : Flaw → String
  | .noStatement => "Invalid statement"
  | .noLineEnd => "Expected newline or end of document after a statement"
  | .noKey => "Invalid initial character for a key part"
  | .noEquals => "Expected '=' after a key in a key/value pair"
  | .noValue => "Invalid value"
  | .noTableEnd => "Expected ']' at the end of a table declaration"
  | .noListEnd => "Expected ']]' at the end of an array declaration"
  | .openList => "Unclosed array"
  | .openInlineTable => "Unclosed inline table"
  | .openString => "Unterminated string"
  | .loneBackslash => "Unescaped '\\' in a string"
  | .badHex => "Invalid hex value"
  | .noCharacter => "Escaped character is not a Unicode scalar value"
  | .badDate => "Invalid date or datetime"
  | .illegal c => "Illegal character " ++ quotedString (String.singleton c)
  | .forbidden c => "Found invalid character " ++ quotedString (String.singleton c)
  | .missing closing => "Expected " ++ quotedString closing
  | .declaredTwice key => "Cannot declare " ++ keyText key ++ " twice"
  | .closed key => "Cannot mutate immutable namespace " ++ keyText key
  | .redefined key => "Cannot redefine namespace " ++ keyText key
  | .duplicate name => "Duplicate inline table key " ++ quotedString name
  | .overwritten => "Cannot overwrite a value"

inductive Refusal
  | fault (flaw : Flaw) (offset : Nat)
  | longNumber (digits : Nat)
  | tooDeep
deriving Repr, DecidableEq

def Flaw.message (text : List Char) (flaw : Flaw) (offset : Nat) : String :=
  let place :=
    if text.length ≤ offset then "end of document"
    else
      let (line, column) := Json.lineAndColumn text offset
      "line " ++ toString line ++ ", column " ++ toString column
  flaw.reason ++ " (at " ++ place ++ ")"

structure Cursor where
  rest : List Char
  offset : Nat

namespace Cursor

def skip (place : Cursor) (n : Nat) : Cursor := ⟨place.rest.drop n, place.offset + n⟩

def skipWhile (among : Char → Bool) (place : Cursor) : Cursor := place.skip (place.rest.takeWhile among).length

def fail {α : Type} (place : Cursor) (flaw : Flaw) : Except Refusal α := .error (.fault flaw place.offset)

def startsWith (place : Cursor) (text : String) : Bool := text.toList.isPrefixOf place.rest

def isBlank (c : Char) : Bool := c == ' ' || c == '\t'

def isBlankOrLineFeed (c : Char) : Bool := isBlank c || c == '\n'

def isControl (c : Char) : Bool := (c.toNat < 32 && c != '\t') || c.toNat == 127

def isControlInLines (c : Char) : Bool := isControl c && c != '\n'

def skipBlanks (place : Cursor) : Cursor := place.skipWhile isBlank

def takeUntil (closing : String) (isForbidden : Char → Bool) (reachesEnd : Bool) (place : Cursor) :
    Except Refusal (List Char × Cursor) :=
  match Text.find? closing.toList place.rest, reachesEnd with
  | none, false => (place.skip place.rest.length).fail (.missing closing)
  | found, _ =>
    let text := place.rest.take (found.getD place.rest.length)
    match text.find? isForbidden with
    | some c => (place.skip (text.takeWhile (!isForbidden ·)).length).fail (.forbidden c)
    | none => .ok (text, place.skip text.length)

def skipComment (place : Cursor) : Except Refusal Cursor :=
  if place.startsWith "#" then ((place.skip 1).takeUntil "\n" isControl true).map (·.2) else .ok place

end Cursor
end EnvAudit.Toml
