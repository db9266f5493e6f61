import EnvAudit.Declaration.Shape
import EnvAudit.Text.Case
import EnvAudit.Url

/-! The types that a rule can demand of a value. -/
namespace EnvAudit

inductive ValueType
  | string
  | number
  | boolean
  | json
  | url
  | email
  | array
deriving Repr, DecidableEq, Inhabited

structure Expectation where
  description : String
  failure : String
  fix : String
  shortError : String
deriving Repr, DecidableEq

namespace ValueType

def all : List ValueType := [.string, .number, .boolean, .json, .url, .email, .array]

def name : ValueType → String
  | .string => "string"
  | .number => "number"
  | .boolean => "boolean"
  | .json => "json"
  | .url => "url"
  | .email => "email"
  | .array => "array"

def ofName? (name : String) : Option ValueType := all.find? (·.name == name)

def booleanTexts : List String := ["true", "false", "1", "0", "yes", "no"]

def isBoolean (text : List Char) : Bool := booleanTexts.contains (String.ofList (Text.lower text))

def hasInnerPoint (domain : List Char) : Bool := (domain.drop 1).dropLast.contains '.'

/-- Whether a text is an address: no blanks, one at sign, something before it and a domain after it. -/
def isEmail (text : List Char) : Bool :=
  !text.any Text.isBlank &&
    match Text.pieces '@' text with
    | [account, domain] => !account.isEmpty && hasInnerPoint domain
    | _ => false

def admits (type : ValueType) (text : List Char) : Except Failure Bool :=
  match type with
  | .number => .ok (Shape.isNumber text)
  | .boolean => .ok (isBoolean text)
  | .json => Json.isWritten text
  | .url => .ok (Url.isAbsolute text)
  | .email => .ok (isEmail text)
  | .string | .array => .ok true

def expectation? : ValueType → Option Expectation
  | .number => some
    ⟨"a number", "is not numeric", "Update the value to be a valid number", "Expected a number"⟩
  | .boolean => some
    ⟨"a boolean", "is not valid", "Use true, false, 1, 0, yes, or no", "Expected a boolean value"⟩
  | .json => some ⟨"valid JSON", "is not parseable", "Ensure the value is valid JSON", "Expected valid JSON"⟩
  | .url => some
    ⟨"a valid URL", "is not a valid URL", "Provide a valid URL (e.g., https://example.com)", "Expected a valid URL"⟩
  | .email => some
    ⟨"a valid email address", "is not a valid email address", "Provide a valid email address",
      "Expected a valid email address"⟩
  | .string | .array => none

end ValueType
end EnvAudit
