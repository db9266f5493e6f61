import EnvAudit.Decimal.Binary64
import EnvAudit.Json.Value

/-! Messages with places for arguments. A place is a percent sign, flags, a width, a precision and a letter that
tells the form of the argument. -/
namespace EnvAudit.Log

inductive FormatFault
  | tooFew
  | tooMany
  | notReal (letter : Char) (kind : String)
  | notFloat (kind : String)
  | notInteger (letter : Char) (kind : String)
  | notCharacter
  | notFinite (infinite : Bool)
  | beyondCharacters
  | unsupported (letter : Char) (index : Nat)
  | incomplete
deriving Repr, DecidableEq

def FormatFault.message : FormatFault → String
  | .tooFew => "not enough arguments for format string"
  | .tooMany => "not all arguments converted during string formatting"
  | .notReal letter kind =>
    "%" ++ String.ofList [letter] ++ " format: a real number is required, not " ++ kind
  | .notFloat kind => "must be real number, not " ++ kind
  | .notInteger letter kind =>
    "%" ++ String.ofList [letter] ++ " format: an integer is required, not " ++ kind
  | .notCharacter => "%c requires int or char"
  | .notFinite true => "cannot convert float infinity to integer"
  | .notFinite false => "cannot convert float NaN to integer"
  | .beyondCharacters => "%c arg not in range(0x110000)"
  | .unsupported letter index =>
    "unsupported format character '" ++ String.ofList [letter] ++ "' (0x"
      ++ String.ofList (Text.hexDigits letter.toNat) ++ ") at index " ++ toString index
  | .incomplete => "incomplete format"

structure Place where
  left : Bool
  zeros : Bool
  plus : Bool
  blank : Bool
  marked : Bool
  width : Nat
  precision : Option Nat
deriving Repr, DecidableEq

/-- Fills a text up to the width of its place. Zeros go between the sign and the digits. -/
def Place.fit (place : Place) (isNumber : Bool) (sign body : List Char) : List Char :=
  let missing := place.width - sign.length - body.length
  if place.left then sign ++ body ++ List.replicate missing ' '
  else if isNumber && place.zeros then sign ++ List.replicate missing '0' ++ body
  else List.replicate missing ' ' ++ sign ++ body

def Place.sign (place : Place) (negative : Bool) : List Char :=
  if negative then ['-'] else if place.plus then ['+'] else if place.blank then [' '] else []

def Place.text (place : Place) (text : List Char) : List Char :=
  place.fit false [] (match place.precision with
    | some most => text.take most
    | none => text)

def Place.integer (place : Place) (base : Nat) (mark : List Char) (n : Int) : List Char :=
  let digits := Text.padZeros (place.precision.getD 0) (Nat.toDigits base n.natAbs)
  place.fit true (place.sign (n < 0) ++ if place.marked then mark else []) digits

def Place.real (place : Place) (upper : Bool) : Decimal.Binary64 → List Char
  | .finite negative mantissa exponent =>
    let places := place.precision.getD 6
    let digits := Decimal.fixedDigits places mantissa exponent
    place.fit true (place.sign negative) (digits ++ if place.marked && places == 0 then ['.'] else [])
  | .infinity negative => place.fit true (place.sign negative) (if upper then "INF" else "inf").toList
  | .notANumber => place.fit true (place.sign false) (if upper then "NAN" else "nan").toList

def truncatedIn (letter : Char) : Json → Except FormatFault Int
  | .int n => .ok n
  | .bool b => .ok (if b then 1 else 0)
  | .real (.infinity _) => .error (.notFinite true)
  | .real .notANumber => .error (.notFinite false)
  | .real r => .ok r.truncate
  | value => .error (.notReal letter value.kindName)

def integerIn (letter : Char) : Json → Except FormatFault Int
  | .int n => .ok n
  | .bool b => .ok (if b then 1 else 0)
  | value => .error (.notInteger letter value.kindName)

def realIn : Json → Except FormatFault Decimal.Binary64
  | .real r => .ok r
  | .int n => .ok (.ofDecimal (n < 0) n.natAbs 0)
  | .bool b => .ok (.ofDecimal false (if b then 1 else 0) 0)
  | value => .error (.notFloat value.kindName)

def characterIn : Json → Except FormatFault Char
  | .int n => if 0 ≤ n && n < 0x110000 then .ok (Char.ofNat n.toNat) else .error .beyondCharacters
  | .bool b => .ok (Char.ofNat (if b then 1 else 0))
  | .text s =>
    match s.toList with
    | [c] => .ok c
    | _ => .error .notCharacter
  | _ => .error .notCharacter

def plain : Json → String
  | .text s => s
  | value => value.display

def escaped (text : List Char) : List Char :=
  text.flatMap fun c =>
    let n := c.toNat
    if n < 0x80 then [c]
    else if n < 0x100 then '\\' :: 'x' :: Text.padZeros 2 (Text.hexDigits n)
    else if n < 0x10000 then '\\' :: 'u' :: Text.padZeros 4 (Text.hexDigits n)
    else '\\' :: 'U' :: Text.padZeros 8 (Text.hexDigits n)

def Place.fill (place : Place) (letter : Char) (index : Nat) (value : Json) : Except FormatFault (List Char) :=
  match letter with
  | 's' => .ok (place.text (plain value).toList)
  | 'r' => .ok (place.text value.display.toList)
  | 'a' => .ok (place.text (escaped value.display.toList))
  | 'c' => do return { place with precision := none }.text [← characterIn value]
  | 'd' | 'i' | 'u' => do return place.integer 10 [] (← truncatedIn letter value)
  | 'x' => do return place.integer 16 ['0', 'x'] (← integerIn letter value)
  | 'X' => do return (place.integer 16 ['0', 'x'] (← integerIn letter value)).map Char.toUpper
  | 'o' => do return place.integer 8 ['0', 'o'] (← integerIn letter value)
  | 'f' => do return place.real false (← realIn value)
  | 'F' => do return place.real true (← realIn value)
  | other => .error (.unsupported other index)

def readPlace (spec : List Char) : Place × Nat :=
  let flags := spec.takeWhile "-0+ #".toList.contains
  let afterFlags := spec.drop flags.length
  let width := afterFlags.takeWhile Text.isArabic
  let afterWidth := afterFlags.drop width.length
  let precision := match afterWidth with
    | '.' :: rest => some (rest.takeWhile Text.isArabic)
    | _ => none
  let beforeLetter := flags.length + width.length + ((precision.map fun digits => digits.length + 1).getD 0)
  let size := ((spec.drop beforeLetter).take 1).filter "hlL".toList.contains
  let number := fun (digits : List Char) => Text.valueOf 10 (digits.map fun c => c.toNat - 48)
  ({ left := flags.contains '-'
     zeros := flags.contains '0'
     plus := flags.contains '+'
     blank := flags.contains ' '
     marked := flags.contains '#'
     width := number width
     precision := precision.map number }, beforeLetter + size.length)

def fillFrom (arguments : List Json) (index : Nat) : Nat → List Char → Except FormatFault (List Char)
  | 0, rest => .ok rest
  | _, [] => if arguments.isEmpty then .ok [] else .error .tooMany
  | bound + 1, '%' :: '%' :: rest => do return '%' :: (← fillFrom arguments (index + 2) bound rest)
  | bound + 1, '%' :: rest =>
    let (place, length) := readPlace rest
    match rest.drop length, arguments with
    | [], _ => .error .incomplete
    | _, [] => .error .tooFew
    | letter :: after, value :: others => do
      return (← place.fill letter (index + length + 1) value) ++ (← fillFrom others (index + length + 2) bound after)
  | bound + 1, c :: rest => do return c :: (← fillFrom arguments (index + 1) bound rest)

/-- A message with its arguments put in; without arguments it is taken as it stands. -/
def withArguments (message : String) (arguments : List Json) : Except FormatFault String :=
  if arguments.isEmpty then .ok message
  else (fillFrom arguments 0 (message.length + 1) message.toList).map String.ofList

end EnvAudit.Log
