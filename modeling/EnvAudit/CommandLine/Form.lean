import EnvAudit.Text.Quoted

/-! The form of a command: its switches, what the words beside them are for, and what is printed about it. -/
namespace EnvAudit.CommandLine

inductive Arity
  | none
  | one
  | many
deriving Repr, DecidableEq

inductive Effect
  | setting
  | help
  | version
deriving Repr, DecidableEq

structure Switch where
  names : List String
  arity : Arity := .none
  effect : Effect := .setting
  choices : List String := []
  isNumber : Bool := false
deriving Repr, DecidableEq

namespace Switch

def key (switch : Switch) : String := switch.names.getLast?.getD ""

def label (switch : Switch) : String := joinWith "/" switch.names

end Switch

/-- What the words beside the switches are for: one directory, or the name of a command with all that follows. -/
inductive Role
  | directory
  | command (names : List String)
  | nothing
deriving Repr, DecidableEq

structure Form where
  program : String
  usage : List String
  details : List String
  switches : List Switch
  role : Role
deriving Repr, DecidableEq

namespace Form

def usageText (form : Form) : String := String.join (form.usage.map (· ++ "\n"))

def helpText (form : Form) : String := String.join ((form.usage ++ "" :: form.details).map (· ++ "\n"))

def named (form : Form) : List (String × Switch) :=
  form.switches.flatMap fun switch => switch.names.map fun name => (name, switch)

def switch? (form : Form) (name : String) : Option Switch := form.named.lookup name

end Form

inductive Misuse
  | ambiguous (word : String) (names : List String)
  | unwantedValue (switch : Switch) (value : String)
  | missingValue (switch : Switch)
  | notNumber (switch : Switch) (value : String)
  | notChoice (label value : String) (choices : List String)
  | unrecognized (words : List String)
  | noCommand
  | twoTransports
  | notDirectory (directory : String)
deriving Repr, DecidableEq

def Misuse.message : Misuse → String
  | .ambiguous word names => "ambiguous option: " ++ word ++ " could match " ++ joinWith ", " names
  | .unwantedValue switch value =>
    "argument " ++ switch.label ++ ": ignored explicit argument " ++ quotedString value
  | .missingValue switch =>
    "argument " ++ switch.label ++ ": expected "
      ++ (if switch.arity == .many then "at least one argument" else "one argument")
  | .notNumber switch value => "argument " ++ switch.label ++ ": invalid int value: " ++ quotedString value
  | .notChoice label value choices =>
    "argument " ++ label ++ ": invalid choice: " ++ quotedString value ++ " (choose from "
      ++ joinWith ", " (choices.map quotedString) ++ ")"
  | .unrecognized words => "unrecognized arguments: " ++ joinWith " " words
  | .noCommand =>
    "A subcommand is required. Use 'env-doctor check' to analyze a project.\n"
      ++ "See 'env-doctor --help' for available commands."
  | .twoTransports => "--tcp and --stdio are mutually exclusive"
  | .notDirectory directory => "Not a directory: " ++ directory

inductive Stop
  | help (form : Form)
  | version
  | misuse (form : Form) (fault : Misuse)
deriving Repr, DecidableEq

end EnvAudit.CommandLine
