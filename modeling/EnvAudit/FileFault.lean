import EnvAudit.Path
import EnvAudit.Text.Quoted

/-! What stands in the way of reading or writing a file. -/
namespace EnvAudit

inductive FileFault
  | missing
  | notDirectory
  | isDirectory
deriving Repr, DecidableEq

namespace FileFault

def number : FileFault → Nat
  | .missing => 2
  | .notDirectory => 20
  | .isDirectory => 21

def reason : FileFault → String
  | .missing => "No such file or directory"
  | .notDirectory => "Not a directory"
  | .isDirectory => "Is a directory"

def message (fault : FileFault) (path : Path) : String :=
  "[Errno " ++ toString fault.number ++ "] " ++ fault.reason ++ ": " ++ quotedString path.text

end FileFault

end EnvAudit
