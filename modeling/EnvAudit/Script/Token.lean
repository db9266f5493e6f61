import EnvAudit.Script.Reading
import EnvAudit.Text.Digit

/-! The tokens of scripts. Where a token ends depends only on its own characters; which kind of token may stand at a
place is decided by the grammar, which asks for it. -/
namespace EnvAudit.Script

def signs : List Char := ":;`\"'@#.,|^&<=>+-*/\\%?!~()[]\x7b\x7d".toList

/-- Any character that is no sign, blank, control character or digit begins a name. -/
def beginsName (c : Char) : Bool :=
  0x1f < c.toNat && !isSpace c && !Text.isArabic c && !signs.contains c

def continuesName (c : Char) : Bool := beginsName c || Text.isArabic c

def nameEscapeLength : List Char → Nat
  | '\\' :: 'u' :: '\x7b' :: rest =>
    let digits := (rest.takeWhile fun c => (Text.hexValue? c).isSome).length
    if 0 < digits && rest[digits]? == some '\x7d' then digits + 4 else 0
  | '\\' :: 'u' :: a :: b :: c :: d :: _ =>
    if [a, b, c, d].all fun c => (Text.hexValue? c).isSome then 6 else 0
  | _ => 0

def nameTailLength : Nat → List Char → Nat
  | _, [] => 0
  | pending + 1, _ :: rest => nameTailLength pending rest + 1
  | 0, c :: rest =>
    if continuesName c then nameTailLength 0 rest + 1
    else
      match nameEscapeLength (c :: rest) with
      | 0 => 0
      | length + 1 => nameTailLength length rest + 1

def nameLength (text : List Char) : Nat :=
  match text with
  | [] => 0
  | c :: _ => if beginsName c || 0 < nameEscapeLength text then nameTailLength 0 text else 0

def marks : List (List Char) :=
  [">>>=", "...", "===", "!==", "**=", "<<=", ">>=", ">>>", "&&=", "||=", "??=", "=>", "==", "!=", "<=", ">=", "&&",
    "||", "??", "?.", "++", "--", "+=", "-=", "*=", "/=", "%=", "&=", "|=", "^=", "<<", ">>", "**"].map String.toList

/-- The longest operator or other sign at the start of a text. A question mark before a decimal fraction stands
alone. -/
def markAt (text : List Char) : List Char :=
  match text with
  | '?' :: '.' :: c :: _ => if Text.isArabic c then ['?'] else ['?', '.']
  | c :: _ => (marks.find? (·.isPrefixOf text)).getD [c]
  | [] => []

def digitRun (among : Char → Bool) : List Char → Nat
  | [] => 0
  | c :: rest =>
    if among c then
      match rest with
      | '_' :: d :: _ => if among d then digitRun among rest + 1 else 1
      | _ => digitRun among rest + 1
    else if c == '_' then
      match rest with
      | d :: _ => if among d then digitRun among rest + 1 else 0
      | [] => 0
    else 0

def decimalRun (text : List Char) : Nat :=
  match text with
  | c :: _ => if Text.isArabic c then digitRun Text.isArabic text else 0
  | [] => 0

def exponentLength (text : List Char) : Nat :=
  match text with
  | e :: rest =>
    if e == 'e' || e == 'E' then
      let sign := match rest with
        | '+' :: _ | '-' :: _ => 1
        | _ => 0
      match decimalRun (rest.drop sign) with
      | 0 => 0
      | digits => 1 + sign + digits
    else 0
  | [] => 0

def basedLength (among : Char → Bool) (rest : List Char) : Nat :=
  match rest with
  | c :: _ =>
    if among c then
      let digits := digitRun among rest
      if rest[digits]? == some 'n' then digits + 3 else digits + 2
    else 0
  | [] => 0

def numberLength (text : List Char) : Nat :=
  let plain :=
    let whole := decimalRun text
    match text.drop whole with
    | 'n' :: _ => if whole == 0 then 0 else whole + 1
    | '.' :: rest =>
      let fraction := decimalRun rest
      if whole == 0 && fraction == 0 then 0
      else whole + 1 + fraction + exponentLength (rest.drop fraction)
    | rest => if whole == 0 then 0 else whole + exponentLength rest
  match text with
  | '0' :: c :: rest =>
    let based :=
      if c == 'x' || c == 'X' then basedLength (fun c => (Text.hexValue? c).isSome) rest
      else if c == 'b' || c == 'B' then basedLength (fun c => c == '0' || c == '1') rest
      else if c == 'o' || c == 'O' then basedLength (fun c => '0' ≤ c && c ≤ '7') rest
      else 0
    if based == 0 then plain else based
  | _ => plain

def escapeLength : List Char → Nat
  | '\\' :: 'x' :: a :: b :: _ => if (Text.hexValue? a).isSome && (Text.hexValue? b).isSome then 4 else 0
  | '\\' :: 'u' :: rest => nameEscapeLength ('\\' :: 'u' :: rest)
  | '\\' :: 'x' :: _ => 0
  | '\\' :: '\r' :: c :: _ => if c == '\n' || c.toNat == 0x2028 || c.toNat == 0x2029 then 3 else 2
  | '\\' :: '?' :: c :: _ => if c == '\n' || c.toNat == 0x2028 || c.toNat == 0x2029 then 3 else 2
  | '\\' :: c :: rest =>
    if '0' ≤ c && c ≤ '7' then 2 + ((rest.take 2).takeWhile fun d => '0' ≤ d && d ≤ '7').length else 2
  | _ => 0

def regexTail (inSet : Bool) : List Char → Option Nat
  | [] => none
  | '\\' :: '\n' :: _ => none
  | '\\' :: _ :: rest => (regexTail inSet rest).map (· + 2)
  | c :: rest =>
    if c == '\n' then none
    else if inSet then (regexTail (c != ']') rest).map (· + 1)
    else if c == '/' then some (1 + (rest.takeWhile fun d => 'a' ≤ d && d ≤ 'z').length)
    else (regexTail (c == '[') rest).map (· + 1)

def regexLength (text : List Char) : Nat :=
  match text with
  | '/' :: '/' :: _ => 0
  | '/' :: '*' :: _ => 0
  | '/' :: rest => ((regexTail false rest).map (· + 1)).getD 0
  | _ => 0

namespace Parser

def word : Parser (List Char) := do
  let text ← rest
  return text.take (nameLength text)

def atWord (expected : String) : Parser Bool := return (← word) == expected.toList

def atWords (expected : List String) : Parser Bool := return expected.contains (String.ofList (← word))

def atName : Parser Bool := return 0 < nameLength (← rest)

def mark : Parser String := return String.ofList (markAt (← rest))

def atMark (expected : String) : Parser Bool := return (← mark) == expected

/-- Whether a character is at the place, be it the start of a longer sign or not. -/
def atChar (c : Char) : Parser Bool := return (← rest).head? == some c

def atEnd : Parser Bool := return (← rest).isEmpty

def onFreshLine : Parser Bool := return (← get).freshLine

def takeName (kind : Kind) : Grammar := do
  let length := nameLength (← rest)
  require (0 < length)
  take kind length

def keyword (expected : String) : Grammar := do
  require (← atWord expected)
  take .keyword expected.length

def sign (expected : String) : Grammar := do
  require (← atMark expected)
  take .mark expected.length

def character (c : Char) : Grammar := do
  require (← atChar c)
  take .mark 1

def signIf (expected : String) : Grammar := do if ← atMark expected then take .mark expected.length else return []

def keywordIf (expected : String) : Grammar := do
  if ← atWord expected then take .keyword expected.length else return []

def enclosed (opening closing : Char) (content : Grammar) : Grammar := do
  return (← character opening) ++ (← content) ++ (← character closing)

def commaList (closing : Char) (item : Grammar) : Grammar :=
  manyUntil (fun r => r.rest.head? == some closing) do
    let nodes ← item
    if ← atChar closing then return nodes
    return nodes ++ (← character ',')

def bracketed (opening closing : Char) (item : Grammar) : Grammar := enclosed opening closing (commaList closing item)

def bracketedSome (opening closing : Char) (item : Grammar) : Grammar :=
  enclosed opening closing do
    require (!(← atChar closing))
    commaList closing item

def bracketedLoosely (opening closing : Char) (item : Grammar) : Grammar :=
  enclosed opening closing
    (manyUntil (fun r => r.rest.head? == some closing) do
      if ← atChar ',' then return ← character ','
      let nodes ← item
      if ← atChar closing then return nodes
      return nodes ++ (← character ','))

def number : Grammar := do
  let length := numberLength (← rest)
  require (0 < length)
  take .number length

def regex : Grammar := do
  let length := regexLength (← rest)
  require (0 < length)
  take .regex length

def stringParts (quote : Char) : Grammar :=
  manyUntil (fun r => r.rest.head? == some quote) do
    let text ← rest
    let plain := (text.takeWhile fun c => c != quote && c != '\\' && c != '\n' && c != '\r').length
    if 0 < plain then takeRaw .fragment plain
    else
      let length := escapeLength text
      require (0 < length)
      takeRaw .escape length

def string : Grammar := do
  let quote := (← rest).head?.getD ' '
  require (quote == '\'' || quote == '"')
  let opening ← takeRaw .mark 1
  let content ← stringParts quote
  let closing ← take .mark 1
  return wrap .string (opening ++ content ++ closing)

/-- Whether a statement may end at the place without a semicolon because a new line goes on in a way that cannot
continue it; `inType` tells that it ends with a type. -/
def lineEnds (inType : Bool) (text : List Char) : Bool :=
  match text with
  | '+' :: c :: _ => c == '+'
  | '-' :: c :: _ => c == '-'
  | '!' :: c :: _ => c != '='
  | '(' :: _ | '[' :: _ => inType
  | c :: _ =>
    !("`,.;*%><=?^|&/:+-".toList.contains c)
      && ["in", "instanceof"].all (·.toList != text.take (nameLength text))
  | [] => true

def semicolonAfter (inType : Bool) : Grammar := do
  let text ← rest
  match text with
  | [] => return []
  | ';' :: _ => take .mark 1
  | '\x7d' :: _ => return []
  | _ =>
    require ((← onFreshLine) && lineEnds inType text)
    return []

def semicolon : Grammar := semicolonAfter false

end Parser
end EnvAudit.Script
