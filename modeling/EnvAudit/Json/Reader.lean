import EnvAudit.Json.Value

/-! The JSON reader. It accepts the grammar of the standard and three names for doubles that are not finite. A text
that it refuses is refused for the first fault from the left; nesting beyond a fixed depth is refused as such. -/
namespace EnvAudit.Json

inductive Flaw
  | byteOrderMark
  | noValue
  | noName
  | noColon
  | noComma
  | extraData
  | openString
  | controlCharacter
  | badEscape
  | badUnicodeEscape
deriving Repr, DecidableEq

def Flaw.reason : Flaw → String
  | .byteOrderMark => "Unexpected UTF-8 BOM (decode using utf-8-sig)"
  | .noValue => "Expecting value"
  | .noName => "Expecting property name enclosed in double quotes"
  | .noColon => "Expecting ':' delimiter"
  | .noComma => "Expecting ',' delimiter"
  | .extraData => "Extra data"
  | .openString => "Unterminated string starting at"
  | .controlCharacter => "Invalid control character at"
  | .badEscape => "Invalid \\escape"
  | .badUnicodeEscape => "Invalid \\uXXXX escape"

inductive Refusal
  | fault (flaw : Flaw) (offset : Nat)
  | longNumber (digits : Nat)
  | tooDeep
deriving Repr, DecidableEq

def nestingLimit : Nat := 990

def lineAndColumn (text : List Char) (offset : Nat) : Nat × Nat :=
  let before := text.take offset
  ((before.filter (· == '\n')).length + 1, (before.reverse.takeWhile (· != '\n')).length + 1)

def Refusal.message (text : List Char) : Refusal → String
  | .fault flaw offset =>
    let (line, column) := lineAndColumn text offset
    flaw.reason ++ ": line " ++ toString line ++ " column " ++ toString column ++ " (char " ++ toString offset ++ ")"
  | .longNumber digits => Text.longNumberMessage digits
  | .tooDeep => "maximum recursion depth exceeded"

structure Cursor where
  rest : List Char
  offset : Nat

namespace Cursor

def skip (place : Cursor) (n : Nat) : Cursor := ⟨place.rest.drop n, place.offset + n⟩

def fail {α : Type} (place : Cursor) (flaw : Flaw) : Except Refusal α := .error (.fault flaw place.offset)

def isSpace (c : Char) : Bool := c == ' ' || c == '\t' || c == '\n' || c == '\r'

def skipSpace (place : Cursor) : Cursor :=
  place.skip (place.rest.takeWhile isSpace).length

end Cursor

def unit? (digits : List Char) : Option Nat :=
  if digits.length == 4 then (digits.mapM Text.hexValue?).map (Text.valueOf 16) else none

def unitChar (unit : Nat) : Char :=
  if 0xd800 ≤ unit && unit ≤ 0xdfff then Char.ofNat 0xfffd else Char.ofNat unit

def simpleEscape? : Char → Option Char
  | '"' => some '"'
  | '\\' => some '\\'
  | '/' => some '/'
  | 'b' => some '\x08'
  | 'f' => some '\x0c'
  | 'n' => some '\n'
  | 'r' => some '\r'
  | 't' => some '\t'
  | _ => none

/-- Reads the escape `\uXXXX` whose digits start at the cursor, together with the second half of a surrogate pair
when one follows. A digit must be followed by a further character of the text. -/
def readUnicodeEscape (place : Cursor) : Except Refusal (Char × Cursor) :=
  if place.rest.length ≤ 4 then .error (.fault .badUnicodeEscape (place.offset - 1))
  else
    match unit? (place.rest.take 4) with
    | none => .error (.fault .badUnicodeEscape (place.offset - 1))
    | some unit =>
      let next := place.skip 4
      if 0xd800 ≤ unit && unit ≤ 0xdbff && 6 < next.rest.length && next.rest.take 2 == ['\\', 'u'] then
        match unit? ((next.rest.drop 2).take 4) with
        | none => .error (.fault .badUnicodeEscape (next.offset + 1))
        | some second =>
          if 0xdc00 ≤ second && second ≤ 0xdfff then
            .ok (Char.ofNat (0x10000 + (unit - 0xd800) * 0x400 + (second - 0xdc00)), next.skip 6)
          else .ok (unitChar unit, next)
      else .ok (unitChar unit, next)

def readString (opening : Nat) (read : List Char) : Nat → Cursor → Except Refusal (String × Cursor)
  | 0, _ => .error (.fault .openString opening)
  | bound + 1, place =>
    match place.rest with
    | [] => .error (.fault .openString opening)
    | '"' :: _ => .ok (String.ofList read.reverse, place.skip 1)
    | '\\' :: 'u' :: _ => do
      let (c, next) ← readUnicodeEscape (place.skip 2)
      readString opening (c :: read) bound next
    | '\\' :: letter :: _ =>
      match simpleEscape? letter with
      | some c => readString opening (c :: read) bound (place.skip 2)
      | none => place.fail .badEscape
    | ['\\'] => .error (.fault .openString opening)
    | c :: _ =>
      if c.toNat < 0x20 then place.fail .controlCharacter else readString opening (c :: read) bound (place.skip 1)

structure Numeral where
  negative : Bool
  whole : List Char
  fraction : Option (List Char)
  exponent : Option (Bool × List Char)

/-- The longest number at the start of a text, with its length. An exponent or fraction without digits does not
belong to it. -/
def numeral? (text : List Char) : Option (Numeral × Nat) :=
  let negative := text.head? == some '-'
  let body := if negative then text.drop 1 else text
  let digits := body.takeWhile Text.isArabic
  let whole := if digits.head? == some '0' then ['0'] else digits
  if whole.isEmpty then none
  else
    let rest := body.drop whole.length
    let fraction := if rest.head? == some '.' then (rest.drop 1).takeWhile Text.isArabic else []
    let rest := if fraction.isEmpty then rest else rest.drop (fraction.length + 1)
    let marked := rest.head? == some 'e' || rest.head? == some 'E'
    let signed := marked && ((rest.drop 1).head? == some '-' || (rest.drop 1).head? == some '+')
    let power := if marked then (rest.drop (if signed then 2 else 1)).takeWhile Text.isArabic else []
    let length := (if negative then 1 else 0) + whole.length
      + (if fraction.isEmpty then 0 else fraction.length + 1)
      + (if power.isEmpty then 0 else power.length + (if signed then 2 else 1))
    some (⟨negative, whole, if fraction.isEmpty then none else some fraction,
      if power.isEmpty then none else some (signed && (rest.drop 1).head? == some '-', power)⟩, length)

def digitsValue (digits : List Char) : Nat := Text.valueOf 10 (digits.map fun c => c.toNat - 48)

namespace Numeral

/-- An integer when there is neither fraction nor exponent, else the nearest double. -/
def value (n : Numeral) : Except Refusal Json :=
  match n.fraction, n.exponent with
  | none, none =>
    if Text.digitLimit < n.whole.length then .error (.longNumber n.whole.length)
    else
      let magnitude : Int := digitsValue n.whole
      .ok (.int (if n.negative then -magnitude else magnitude))
  | fraction, exponent =>
    let fraction := fraction.getD []
    let power : Int := match exponent with
      | none => 0
      | some (negative, digits) => if negative then -(digitsValue digits : Int) else digitsValue digits
    .ok (.real (Decimal.Binary64.ofDecimal n.negative (digitsValue (n.whole ++ fraction)) (power - fraction.length)))

end Numeral

def namedValue? (text : List Char) : Option (Json × Nat) :=
  if "null".toList.isPrefixOf text then some (.null, 4)
  else if "true".toList.isPrefixOf text then some (.bool true, 4)
  else if "false".toList.isPrefixOf text then some (.bool false, 5)
  else if "NaN".toList.isPrefixOf text then some (.real .notANumber, 3)
  else if "Infinity".toList.isPrefixOf text then some (.real (.infinity false), 8)
  else if "-Infinity".toList.isPrefixOf text then some (.real (.infinity true), 9)
  else none

def readScalar (place : Cursor) : Except Refusal (Json × Cursor) :=
  match namedValue? place.rest with
  | some (value, length) => .ok (value, place.skip length)
  | none =>
    match numeral? place.rest with
    | some (numeral, length) => do
      let value ← numeral.value
      .ok (value, place.skip length)
    | none => place.fail .noValue

mutual

def readValue (depth : Nat) : Nat → Cursor → Except Refusal (Json × Cursor)
  | 0, place => place.fail .noValue
  | bound + 1, place =>
    match place.rest with
    | '"' :: _ => do
      let (s, next) ← readString place.offset [] bound (place.skip 1)
      .ok (.text s, next)
    | '[' :: _ =>
      match depth with
      | 0 => .error .tooDeep
      | depth + 1 =>
        let next := (place.skip 1).skipSpace
        if next.rest.head? == some ']' then .ok (.list [], next.skip 1) else readItems depth [] bound next
    | '\x7b' :: _ =>
      match depth with
      | 0 => .error .tooDeep
      | depth + 1 =>
        let next := (place.skip 1).skipSpace
        if next.rest.head? == some '\x7d' then .ok (.object [], next.skip 1) else readFields depth [] bound next
    | _ => readScalar place

def readItems (depth : Nat) (read : List Json) : Nat → Cursor → Except Refusal (Json × Cursor)
  | 0, place => place.fail .noValue
  | bound + 1, place => do
    let (item, next) ← readValue depth bound place
    let next := next.skipSpace
    match next.rest with
    | ']' :: _ => .ok (.list (item :: read).reverse, next.skip 1)
    | ',' :: _ => readItems depth (item :: read) bound (next.skip 1).skipSpace
    | _ => next.fail .noComma

def readFields (depth : Nat) (read : List (String × Json)) : Nat → Cursor → Except Refusal (Json × Cursor)
  | 0, place => place.fail .noName
  | bound + 1, place =>
    match place.rest with
    | '"' :: _ => do
      let (name, next) ← readString place.offset [] bound (place.skip 1)
      let next := next.skipSpace
      match next.rest with
      | ':' :: _ =>
        let (value, next) ← readValue depth bound (next.skip 1).skipSpace
        let next := next.skipSpace
        match next.rest with
        | '\x7d' :: _ => .ok (ofFields ((name, value) :: read).reverse, next.skip 1)
        | ',' :: _ => readFields depth ((name, value) :: read) bound (next.skip 1).skipSpace
        | _ => next.fail .noComma
      | _ => next.fail .noColon
    | _ => place.fail .noName

end

/-- The value that a whole text writes. Reading takes a character at least at every second step. -/
def read (text : List Char) : Except Refusal Json :=
  if text.head? == some '\uFEFF' then .error (.fault .byteOrderMark 0)
  else do
    let (value, next) ← readValue nestingLimit (2 * text.length + 2) (Cursor.skipSpace ⟨text, 0⟩)
    let next := next.skipSpace
    if next.rest.isEmpty then .ok value else next.fail .extraData

end EnvAudit.Json
