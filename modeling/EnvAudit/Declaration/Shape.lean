import EnvAudit.Declaration
import EnvAudit.Failure
import EnvAudit.Text.Digit

/-! The shape that a value's text suggests. -/
namespace EnvAudit.Shape

/-- A number: an optional minus sign, digits of any script, and possibly a point with digits after it. -/
def isNumber (text : List Char) : Bool :=
  let unsigned := if text.head? == some '-' then text.drop 1 else text
  match unsigned.takeWhile Text.isDigit, unsigned.dropWhile Text.isDigit with
  | _ :: _, [] => true
  | _ :: _, '.' :: fraction => !fraction.isEmpty && fraction.all Text.isDigit
  | _, _ => false

def isNumberLine (text : List Char) : Bool := isNumber (Text.dropEnding ['\n'] text)

def isBracketed (text : List Char) : Bool :=
  (text.head? == some '\x7b' && text.getLast? == some '\x7d')
    || (text.head? == some '[' && text.getLast? == some ']')

def ofText (text : List Char) : Except Failure (Option Shape) := do
  if text.isEmpty then return none
  if text == "true".toList || text == "false".toList then return some .boolean
  if isNumberLine text then return some .number
  if isBracketed text then
    if ← Json.isWritten text then return some .json
  if text.contains ',' && !text.contains ' ' then return some .array
  return some .string

/-- The most frequent shape; of equally frequent ones the first. -/
def mostCommon (shapes : List Shape) : Option Shape :=
  (Text.distinct shapes).foldl
    (fun best shape =>
      match best with
      | none => some shape
      | some leader => if shapes.count leader < shapes.count shape then some shape else some leader)
    none

end EnvAudit.Shape
