import EnvAudit.Json.Value

/-! Why a part of a configuration is not taken over, with the text of every reason. -/
namespace EnvAudit.Config

structure Slot where
  owner : String
  name : String
deriving Repr, DecidableEq

def Slot.path (slot : Slot) : String := quotedString (slot.owner ++ "." ++ slot.name)

inductive Refusal
  | unknownOption
  | notObject (kind : String)
  | notString (slot : Slot) (kind : String)
  | notList (slot : Slot) (kind : String)
  | badItem (slot : Slot) (kind : String)
  | notBoolean (slot : Slot) (orNothing : Bool) (value : Json)
  | notTable (slot : Slot) (value : Json)
  | notChoice (slot : Slot) (value : Json) (choices : List String)
  | notSection (slot : Slot) (value : Json)
  | patternNotText (kind : String)
  | badPattern (pattern message : String)
  | clashingModes (message : String)
  | longNumber (digits : Nat)
deriving Repr, BEq

def className (kind : String) : String := "<class '" ++ kind ++ "'>"

def Refusal.message : Refusal → String
  | .unknownOption => "unknown option"
  | .notObject kind => "expected an object, got " ++ kind
  | .notString slot kind =>
    "String parameter " ++ slot.path ++ " only takes a string value, not value of " ++ className kind ++ "."
  | .notList slot kind =>
    "List parameter " ++ slot.path ++ " must be a list, not an object of " ++ className kind ++ "."
  | .badItem slot kind =>
    "List parameter " ++ slot.path ++ " items must be instances of " ++ className "str" ++ ", not "
      ++ className kind ++ "."
  | .notBoolean slot false value =>
    "Boolean parameter " ++ slot.path ++ " must be True or False, not " ++ value.display ++ "."
  | .notBoolean slot true value =>
    "Boolean parameter " ++ slot.path ++ " only takes a Boolean value or None, not " ++ value.display ++ "."
  | .notTable slot value =>
    "Dict parameter " ++ slot.path ++ " value must be an instance of dict, not " ++ value.display ++ "."
  | .notChoice slot value choices =>
    "Selector parameter " ++ slot.path ++ " does not accept " ++ value.display ++ "; valid options include: "
      ++ quotedString ("[" ++ joinWith ", " choices ++ "]")
  | .notSection slot value =>
    "ClassSelector parameter " ++ slot.path ++ " value must be an instance of MatrixConfig, not " ++ value.display
      ++ "."
  | .patternNotText kind => "pattern must be a string, got " ++ kind
  | .badPattern pattern message => "invalid regular expression " ++ quotedString pattern ++ ": " ++ message
  | .clashingModes message => message
  | .longNumber digits => Text.longNumberMessage digits

def Refusal.shown? : Refusal → Option Json
  | .notBoolean _ _ value | .notTable _ value | .notChoice _ value _ | .notSection _ value => some value
  | _ => none

/-- Whether a reason can be told: a value that it shows must not nest too deeply. -/
def Refusal.isTellable (refusal : Refusal) : Bool := refusal.shown?.all fun value => value.depth ≤ Json.displayLimit

structure Problem where
  path : String
  refusal : Refusal
deriving Repr, BEq

def Problem.text (problem : Problem) : String := problem.path ++ ": " ++ problem.refusal.message

end EnvAudit.Config
