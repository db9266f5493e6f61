import EnvAudit.FileFault
import EnvAudit.Json.Reader
import EnvAudit.Pattern

/-! What stops an operation altogether, in contrast to the faults that it reports and survives. -/
namespace EnvAudit

inductive Failure
  | nestingTooDeep
  | pattern (source : List Char) (fault : Pattern.Fault)
  | codePointTooLarge
  | toolNotTable (kind : String)
  | noEnvironments
  | noExpectation (type : String)
  | numberTooLong (digits : Nat)
  | unwritable (fault : FileFault) (file : Path)
deriving Repr

def Failure.message : Failure → String
  | .nestingTooDeep => "maximum recursion depth exceeded"
  | .pattern source fault => fault.message source
  | .codePointTooLarge => "Python int too large to convert to C int"
  | .toolNotTable kind => quotedString kind ++ " object has no attribute 'get'"
  | .noEnvironments => "No environments configured for matrix analysis"
  | .noExpectation type => quotedString type
  | .numberTooLong digits => Text.longNumberMessage digits
  | .unwritable fault file => fault.message file

/-- Whether a failure tells of a value that makes no sense, in contrast to one that is merely too large or not
there. -/
def Failure.isBadValue : Failure → Bool
  | .noEnvironments | .numberTooLong _ | .pattern _ .clashingModes => true
  | _ => false

namespace Json

/-- Whether a text is JSON. Only nesting beyond the limit leaves the question open. -/
def isWritten (text : List Char) : Except Failure Bool :=
  match read text with
  | .ok _ => .ok true
  | .error .tooDeep => .error .nestingTooDeep
  | .error _ => .ok false

end Json

namespace Pattern

def body (setting : String) : List Char :=
  match delimited? setting.toList with
  | some (body, _) => body
  | none => setting.toList

def Fault.failure (source : List Char) : Fault → Failure
  | .nestingTooDeep => .nestingTooDeep
  | .longNumber digits => .numberTooLong digits
  | fault => .pattern source fault

/-- Compiles a setting where a pattern that is no pattern is survived: the message tells why, and only a fault that is
no flaw, such as a repetition beyond the greatest count, stops the operation. -/
def tryCompile (setting : String) : Except Failure (Except String Pattern) :=
  match ofSetting setting with
  | .ok pattern => .ok (.ok pattern)
  | .error (.flawed flaw position) => .ok (.error ((Fault.flawed flaw position).message (body setting)))
  | .error fault => .error (fault.failure (body setting))

end Pattern
end EnvAudit
