import EnvAudit.Declaration.Shape
import EnvAudit.Secret

/-! The parser of declaration files. Every line stands for itself: it is blank or a comment, it declares a variable,
or it is faulty. -/
namespace EnvAudit.Declaration

/-- The names of variables: a letter or underscore, then letters, digits and underscores, all of them ASCII. -/
def isName : List Char → Bool
  | [] => false
  | c :: rest => (Text.isLatin c || c == '_') && rest.all Text.isPlainWordChar

inductive Reading
  | nothing
  | fault (message : String)
  | assignment (name value : List Char)
deriving Repr, DecidableEq

def escaped? : Char → Option Char
  | 'n' => some '\n'
  | 'r' => some '\r'
  | 't' => some '\t'
  | '"' => some '"'
  | '\\' => some '\\'
  | _ => none

/-- Resolves the escapes of a value in double quotes; a backslash before any other character stands for itself. -/
def unescape : List Char → List Char
  | [] => []
  | ['\\'] => ['\\']
  | '\\' :: c :: rest =>
    match escaped? c with
    | some d => d :: unescape rest
    | none => '\\' :: unescape (c :: rest)
  | c :: rest => c :: unescape rest

def enclosingQuote? (text : List Char) : Option Char :=
  match text.head?, text.getLast? with
  | some first, some last =>
    if 2 ≤ text.length && first == last && (first == '\'' || first == '"') then some first else none
  | _, _ => none

/-- The text before a comment, which starts with a blank and a number sign. -/
def withoutComment (text : List Char) : List Char :=
  match Text.find? " #".toList text with
  | some length => Text.trim (text.take length)
  | none => text

def valueOf (text : List Char) : List Char :=
  let text := Text.trim text
  match enclosingQuote? text with
  | some '"' => unescape (text.drop 1).dropLast
  | some _ => (text.drop 1).dropLast
  | none => withoutComment text

def readLine (line : List Char) : Reading :=
  let line := Text.trim line
  if line.isEmpty || line.head? == some '#' then .nothing
  else
    let body := (Text.dropStart? "export ".toList line).getD line
    match Text.cut? '=' body with
    | none => .fault "Invalid format: missing '=' sign"
    | some (before, after) =>
      let name := Text.trim before
      if isName name then .assignment name (valueOf after)
      else .fault ("Invalid variable name: \"" ++ String.ofList name ++ "\"")

def ofAssignment (file : String) (number : Nat) (raw name value : List Char) : Except Failure Declaration := do
  let shape ← Shape.ofText value
  return {
    name := String.ofList name
    value := String.ofList value
    line := number
    file
    isSecret := Secret.isLikely (String.ofList name) (String.ofList value) []
    shape
    raw := some (String.ofList raw) }

def addLine (file : String) (number : Nat) (line : List Char) (rest : Declarations) : Except Failure Declarations :=
  match readLine line with
  | .nothing => .ok rest
  | .fault message => .ok { rest with faults := ⟨number, message, some file⟩ :: rest.faults }
  | .assignment name value => do
    let declaration ← ofAssignment file number line name value
    return { rest with declared := declaration :: rest.declared }

def ofLines (file : String) : Nat → List (List Char) → Except Failure Declarations
  | _, [] => .ok ⟨[], []⟩
  | number, line :: rest => do addLine file number line (← ofLines file (number + 1) rest)

def parse (text : List Char) (file : String) : Except Failure Declarations := ofLines file 1 (Text.lines text)

end EnvAudit.Declaration
