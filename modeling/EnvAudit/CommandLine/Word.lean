import EnvAudit.CommandLine.Form
import EnvAudit.Text.Digit

/-! The words of a command line. A word is taken for a switch by its beginning; a long name may be cut short as long
as only one switch is meant, and a value may stand in the same word. -/
namespace EnvAudit.CommandLine

/-- A switch that a word names, with the value in the same word. -/
structure Mention where
  word : String
  name : String
  switch : Switch
  value : Option String
deriving Repr, DecidableEq

inductive Word
  | mention (mention : Mention)
  | unknown (text : String)
  | separator
  | plain (text : String)
deriving Repr, DecidableEq

namespace Word

def text : Word → String
  | mention found => found.word
  | unknown text => text
  | separator => "--"
  | plain text => text

def isPlain : Word → Bool
  | plain _ => true
  | _ => false

def isNegativeNumber (text : String) : Bool :=
  match Text.dropEnding ['\n'] text.toList with
  | '-' :: rest =>
    match rest.dropWhile Text.isDigit with
    | [] => !rest.isEmpty
    | '.' :: fraction => !fraction.isEmpty && fraction.all Text.isDigit
    | _ => false
  | _ => false

def isLong (name : String) : Bool := beginsWith name "--"

def splitValue (text : String) : String × Option String :=
  match Text.cut? '=' text.toList with
  | some (name, value) => (String.ofList name, some (String.ofList value))
  | none => (text, none)

def longCandidates (form : Form) (text : String) : List Mention :=
  let (start, value) := splitValue text
  (form.named.filter fun entry => beginsWith entry.1 start).map fun (name, switch) =>
    ⟨text, name, switch, value⟩

/-- What a short name with a value attached to it may mean, or a long name with a single dash. -/
def shortCandidates (form : Form) (text : String) : List Mention :=
  form.named.filterMap fun (name, switch) =>
    if name == String.ofList (text.toList.take 2) then
      some ⟨text, name, switch, some (String.ofList (text.toList.drop 2))⟩
    else if beginsWith name text then some ⟨text, name, switch, none⟩
    else none

def candidates (form : Form) (text : String) : List Mention :=
  if isLong text then longCandidates form text else shortCandidates form text

def full? (form : Form) (text : String) : Option Mention :=
  match form.switch? text with
  | some switch => some ⟨text, text, switch, none⟩
  | none =>
    match splitValue text with
    | (name, some value) => (form.switch? name).map fun switch => ⟨text, name, switch, some value⟩
    | _ => none

def ofDashed (text : String) : Word :=
  if isNegativeNumber text || text.toList.contains ' ' then plain text else unknown text

def ofText (form : Form) (text : String) : Except Misuse Word :=
  if !beginsWith text "-" then .ok (plain text)
  else
    match full? form text with
    | some found => .ok (mention found)
    | none =>
      if text == "-" then .ok (plain text)
      else
        match candidates form text with
        | [] => .ok (ofDashed text)
        | [found] => .ok (mention found)
        | many => .error (.ambiguous text (many.map (·.name)))

/-- All words. After two dashes every word is plain. -/
def ofTexts (form : Form) : List String → Except Misuse (List Word)
  | [] => .ok []
  | text :: rest =>
    if text == "--" then .ok (separator :: rest.map plain)
    else do return (← ofText form text) :: (← ofTexts form rest)

end Word
end EnvAudit.CommandLine
