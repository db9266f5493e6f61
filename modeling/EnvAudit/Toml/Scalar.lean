import EnvAudit.Toml.Fault

/-! Strings, numbers, dates and times in TOML documents. -/
namespace EnvAudit.Toml
open Cursor

def simpleEscape? : Char → Option Char
  | 'b' => some '\x08'
  | 't' => some '\t'
  | 'n' => some '\n'
  | 'f' => some '\x0c'
  | 'r' => some '\r'
  | '"' => some '"'
  | '\\' => some '\\'
  | _ => none

def readHex (length : Nat) (place : Cursor) : Except Refusal (List Char × Cursor) :=
  let digits := place.rest.take length
  match digits.mapM Text.hexValue? with
  | none => place.fail .badHex
  | some values =>
    if digits.length != length then place.fail .badHex
    else
      let next := place.skip length
      let code := Text.valueOf 16 values
      if code < 0xd800 || (0xe000 ≤ code && code ≤ 0x10ffff) then .ok ([Char.ofNat code], next)
      else next.fail .noCharacter

/-- Reads a backslash before the end of a line: it takes the blanks and line feeds after it away. -/
def readLineEnd (place : Cursor) : Except Refusal (List Char × Cursor) :=
  let next := if place.startsWith "\\\n" then place.skip 1 else (place.skip 2).skipBlanks
  match next.rest with
  | [] => .ok ([], next)
  | '\n' :: _ => .ok ([], (next.skip 1).skipWhile isBlankOrLineFeed)
  | _ => next.fail .loneBackslash

def readEscape (inLines : Bool) (place : Cursor) : Except Refusal (List Char × Cursor) :=
  match place.rest.drop 1 with
  | [] => (place.skip 2).fail .loneBackslash
  | letter :: _ =>
    if inLines && isBlankOrLineFeed letter then readLineEnd place
    else if letter == 'u' then readHex 4 (place.skip 2)
    else if letter == 'U' then readHex 8 (place.skip 2)
    else
      match simpleEscape? letter with
      | some c => .ok ([c], place.skip 2)
      | none => (place.skip 2).fail .loneBackslash

def readBasic (inLines : Bool) (read : List Char) : Nat → Cursor → Except Refusal (List Char × Cursor)
  | 0, place => place.fail .openString
  | bound + 1, place =>
    match place.rest with
    | [] => place.fail .openString
    | '"' :: _ =>
      if !inLines then .ok (read.reverse, place.skip 1)
      else if place.startsWith "\"\"\"" then .ok (read.reverse, place.skip 3)
      else readBasic inLines ('"' :: read) bound (place.skip 1)
    | '\\' :: _ => do
      let (text, next) ← readEscape inLines place
      readBasic inLines (text.reverse ++ read) bound next
    | c :: _ =>
      if isControl c && !(inLines && c == '\n') then place.fail (.illegal c)
      else readBasic inLines (c :: read) bound (place.skip 1)

def readBasicLine (place : Cursor) : Except Refusal (List Char × Cursor) := readBasic false [] (place.rest.length + 1) (place.skip 1)

def readLiteralLine (place : Cursor) : Except Refusal (List Char × Cursor) := do
  let (text, next) ← (place.skip 1).takeUntil "'" isControl false
  return (text, next.skip 1)

/-- Up to two quotes right after the closing quotes of a string of several lines belong to it. -/
def takeFurtherQuotes (quote : Char) (text : List Char) (place : Cursor) : List Char × Cursor :=
  let further := ((place.rest.take 2).takeWhile (· == quote)).length
  (text ++ List.replicate further quote, place.skip further)

def readLines (quote : Char) (place : Cursor) : Except Refusal (List Char × Cursor) := do
  let start := place.skip 3
  let start := if start.startsWith "\n" then start.skip 1 else start
  if quote == '"' then
    let (text, next) ← readBasic true [] (start.rest.length + 1) start
    return takeFurtherQuotes quote text next
  else
    let (text, next) ← start.takeUntil "'''" isControlInLines false
    return takeFurtherQuotes quote text (next.skip 3)

def readString (place : Cursor) : Except Refusal (List Char × Cursor) :=
  if place.startsWith "\"\"\"" then readLines '"' place
  else if place.startsWith "'''" then readLines '\'' place
  else if place.startsWith "\"" then readBasicLine place
  else readLiteralLine place

def groupedDigits (among : Char → Bool) : List Char → List Char
  | [] => []
  | c :: rest =>
    if among c then c :: groupedDigits among rest
    else if c == '_' && (rest.head?.map among).getD false then c :: groupedDigits among rest
    else []

def digitsAt (among : Char → Bool) (text : List Char) : List Char :=
  if (text.head?.map among).getD false then groupedDigits among text else []

def numberOf (base : Nat) (digits : List Char) : Nat := Text.valueOf base (digits.filterMap Text.hexValue?)

def basedInteger? (text : List Char) : Option (Int × Nat) :=
  let read := fun (base : Nat) (among : Char → Bool) (rest : List Char) =>
    match digitsAt among rest with
    | [] => none
    | digits => some ((numberOf base digits : Int), digits.length + 2)
  match text with
  | '0' :: 'x' :: rest => read 16 (fun c => (Text.hexValue? c).isSome) rest
  | '0' :: 'b' :: rest => read 2 (fun c => c == '0' || c == '1') rest
  | '0' :: 'o' :: rest => read 8 (fun c => '0' ≤ c && c ≤ '7') rest
  | _ => none

structure Numeral where
  sign : List Char
  whole : List Char
  fraction : List Char
  exponentSign : List Char
  exponent : List Char

def signAt (text : List Char) : List Char :=
  match text with
  | '+' :: _ => ['+']
  | '-' :: _ => ['-']
  | _ => []

def numeral? (text : List Char) : Option (Numeral × Nat) :=
  let sign := signAt text
  let body := text.drop sign.length
  let whole := if body.head? == some '0' then ['0'] else digitsAt Text.isArabic body
  if whole.isEmpty then none
  else
    let rest := body.drop whole.length
    let fraction := if rest.head? == some '.' then digitsAt Text.isArabic (rest.drop 1) else []
    let rest := if fraction.isEmpty then rest else rest.drop (fraction.length + 1)
    let marked := rest.head? == some 'e' || rest.head? == some 'E'
    let exponentSign := if marked then signAt (rest.drop 1) else []
    let exponent := if marked then digitsAt Text.isArabic (rest.drop (1 + exponentSign.length)) else []
    some (⟨sign, whole, fraction, exponentSign, exponent⟩,
      sign.length + whole.length + (if fraction.isEmpty then 0 else fraction.length + 1)
        + (if exponent.isEmpty then 0 else 1 + exponentSign.length + exponent.length))

def Numeral.value (n : Numeral) : Except Refusal Value :=
  let isNegative := n.sign == ['-']
  if n.fraction.isEmpty && n.exponent.isEmpty then
    let count := (n.whole.filter Text.isArabic).length
    if Text.digitLimit < count then .error (.longNumber count)
    else .ok (.int (if isNegative then -(numberOf 10 n.whole : Int) else numberOf 10 n.whole))
  else
    let fraction := n.fraction.filter Text.isArabic
    let exponent : Int := numberOf 10 n.exponent
    let power := (if n.exponentSign == ['-'] then -exponent else exponent) - fraction.length
    .ok (.real (Decimal.Binary64.ofDecimal isNegative (numberOf 10 (n.whole ++ fraction)) power))

def namedNumber? (text : List Char) : Option (Decimal.Binary64 × Nat) :=
  let sign := signAt text
  let name := (text.drop sign.length).take 3
  if name == "inf".toList then some (.infinity (sign == ['-']), sign.length + 3)
  else if name == "nan".toList then some (.notANumber, sign.length + 3)
  else none

def boundedDigits? (length least most : Nat) (text : List Char) : Option Nat :=
  let digits := text.take length
  if digits.length == length && digits.all Text.isArabic then
    let value := numberOf 10 digits
    if least ≤ value && value ≤ most then some value else none
  else none

def timeLength? (text : List Char) : Option Nat := do
  let _ ← boundedDigits? 2 0 23 text
  let _ ← boundedDigits? 2 0 59 (text.drop 3)
  let _ ← boundedDigits? 2 0 59 (text.drop 6)
  if text[2]? != some ':' || text[5]? != some ':' then none
  let fraction := (text.drop 9).takeWhile Text.isArabic
  return if text[8]? == some '.' && !fraction.isEmpty then 9 + fraction.length else 8

def zoneLength (text : List Char) : Nat :=
  match text with
  | 'Z' :: _ | 'z' :: _ => 1
  | c :: rest =>
    if (c == '+' || c == '-') && (boundedDigits? 2 0 23 rest).isSome && rest[2]? == some ':'
        && (boundedDigits? 2 0 59 (rest.drop 3)).isSome then 6
    else 0
  | [] => 0

def daysIn (year month : Nat) : Nat :=
  if month == 2 then if year % 4 == 0 && (year % 100 != 0 || year % 400 == 0) then 29 else 28
  else if [4, 6, 9, 11].contains month then 30
  else 31

/-- Reads a date, possibly with a time of day, or a time of day alone. Nothing results if there is none. -/
def readMoment? (place : Cursor) : Option (Except Refusal (Value × Cursor)) :=
  let text := place.rest
  let date? : Option (Nat × Nat × Nat) := do
    let year ← boundedDigits? 4 0 9999 text
    let month ← boundedDigits? 2 1 12 (text.drop 5)
    let day ← boundedDigits? 2 1 31 (text.drop 8)
    if text[4]? != some '-' || text[7]? != some '-' then none
    return (year, month, day)
  let result := fun (kind : Moment) (length : Nat) =>
    (.ok (.moment kind (String.ofList (text.take length)), place.skip length) : Except Refusal (Value × Cursor))
  match date? with
  | some (year, month, day) =>
    if year == 0 || daysIn year month < day then some (place.fail .badDate)
    else
      match text[10]?, timeLength? (text.drop 11) with
      | some c, some length =>
        if c == 'T' || c == 't' || c == ' ' then
          some (result .dateTime (11 + length + zoneLength (text.drop (11 + length))))
        else some (result .date 10)
      | _, _ => some (result .date 10)
  | none => (timeLength? text).map (result .time)

end EnvAudit.Toml
