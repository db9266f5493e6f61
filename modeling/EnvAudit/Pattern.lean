import EnvAudit.Pattern.Matcher
import EnvAudit.Pattern.Reader

/-! Compiled patterns. A setting writes a pattern plainly or between slashes with option letters after it; of the
letters only `i`, `m` and `s` change the meaning. -/
namespace EnvAudit

structure Pattern where
  source : String
  expr : Pattern.Expr
deriving Repr

namespace Pattern

def compile (source : String) (options : Options := {}) : Except Fault Pattern :=
  (parse source.toList options).map fun expr => ⟨source, expr⟩

/-- The body and the option letters of a text of the form `/body/letters`. The body reaches to the last slash. -/
def delimited? (text : List Char) : Option (List Char × List Char) :=
  match text with
  | '/' :: rest =>
    let letters := rest.reverse.takeWhile fun c => 'a' ≤ c && c ≤ 'z'
    match rest.reverse.drop letters.length with
    | '/' :: body => some (body.reverse, letters.reverse)
    | _ => none
  | _ => none

def ofSetting (text : String) : Except Fault Pattern :=
  match delimited? text.toList with
  | none => compile text
  | some (body, letters) =>
    compile (String.ofList body)
      { ignoreCase := letters.contains 'i', multiLine := letters.contains 'm', dotAll := letters.contains 's' }

def search (p : Pattern) (s : String) : Option Match := p.expr.search s.toList

def occursIn (p : Pattern) (s : String) : Bool := (p.search s).isSome

def table (options : Options) (sources : List String) : List Pattern :=
  sources.filterMap fun source => (compile source options).toOption

def caseless : Options := { ignoreCase := true }

end Pattern
end EnvAudit
