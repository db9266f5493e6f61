import EnvAudit.CommandLine.Forms
import EnvAudit.CommandLine.Reader

/-! What a command line asks for. -/
namespace EnvAudit.CommandLine

structure Target where
  directory : String := "."
  config : Option String := none
deriving Repr, DecidableEq

inductive Request
  | check (target : Target) (environment : Option String) (json strict verbose : Bool)
  | compare (target : Target) (environments : List String) (json : Bool)
  | sync (target : Target) (writes : Bool) (output : Option String)
  | start (directory : String) (force : Bool)
  | serve
deriving Repr, DecidableEq

def Request.target? : Request → Option Target
  | .check target .. | .compare target .. | .sync target .. => some target
  | .start .. | .serve => none

structure Order where
  level : Log.Level
  request : Request
deriving Repr, DecidableEq

namespace Seen

def directory (seen : Seen) : String := ((seen.taken.getD []).head?).getD "."

def target (seen : Seen) : Target := ⟨seen.directory, seen.value? "--config"⟩

def wantsJson (seen : Seen) : Bool := seen.value? "--format" == some "json"

def request (seen : Seen) (command : String) : Except Misuse Request :=
  match command with
  | "check" =>
    .ok (.check seen.target (seen.value? "--env") seen.wantsJson (seen.has "--strict") (seen.has "--verbose"))
  | "matrix" => .ok (.compare seen.target (seen.all "--env") seen.wantsJson)
  | "sync" => .ok (.sync seen.target (seen.has "--write") (seen.value? "--output"))
  | "init" => .ok (.start seen.directory (seen.has "--force"))
  | _ => if seen.has "--tcp" && seen.has "--stdio" then .error .twoTransports else .ok .serve

end Seen

def readCommand (seen : Seen) : Except Stop (Option (String × Seen)) :=
  match seen.taken with
  | some (command :: arguments) => ((formOf command).read arguments).map fun inner => some (command, inner)
  | _ => .ok none

/-- What a command line asks for. Words that nothing is known about are refused before all else. -/
def Order.read (arguments : List String) : Except Stop Order := do
  let seen ← programForm.read arguments
  let command ← readCommand seen
  let unknown := seen.unknown ++ (command.map fun found => found.2.unknown).getD []
  let refuse := Stop.misuse programForm
  if !unknown.isEmpty then throw (refuse (.unrecognized unknown))
  match command with
  | none => throw (refuse .noCommand)
  | some (name, inner) =>
    let level := ((seen.value? "--log-level").bind Log.Level.ofName?).getD .warning
    return ⟨level, ← (inner.request name).mapError refuse⟩

end EnvAudit.CommandLine
