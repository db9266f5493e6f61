import EnvAudit.NameGlob

/-! Ignoring variables. An entry is a glob for names, or a topic and such a glob with a colon between them; the former
counts for every topic. -/
namespace EnvAudit

inductive Topic
  | missing
  | unused
  | typeMismatch
  | secret
  | syncDrift
deriving Repr, DecidableEq

def Topic.name : Topic → String
  | .missing => "missing"
  | .unused => "unused"
  | .typeMismatch => "type-mismatch"
  | .secret => "secret"
  | .syncDrift => "sync-drift"

namespace Ignore

/-- Whether an entry silences a variable for the topic of the given name; without a topic only plain globs count. -/
def entryCovers (entry name : String) (topic : Option String) : Bool :=
  match Text.cut? ':' entry.toList with
  | some (scope, glob) => topic == some (String.ofList scope) && NameGlob.covers (String.ofList glob) name
  | none => NameGlob.covers entry name

def covers (entries : List String) (name : String) (topic : Option String) : Bool :=
  entries.any (entryCovers · name topic)

def silences (entries : List String) (name : String) (topic : Topic) : Bool := covers entries name (some topic.name)

end Ignore
end EnvAudit
