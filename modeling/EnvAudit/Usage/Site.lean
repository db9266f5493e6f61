import EnvAudit.Framework
import EnvAudit.Path
import EnvAudit.Pattern
import EnvAudit.Script.Tree
import EnvAudit.Text.Case
import EnvAudit.Usage

/-! What the name of a source file tells about it: its dialect, and whether it belongs to the browser side. -/
namespace EnvAudit

def clientPathPatterns : List Pattern :=
  Pattern.table {}
    ["/components/", "/pages/", "/app/.*page\\.(tsx?|jsx?)$", "/hooks/", "\\.client\\.(tsx?|jsx?)$"]

def isClientPath (path : String) : Bool :=
  let whole := '/' :: (Path.ofString path).text.toList.dropWhile (· == '/')
  clientPathPatterns.any (·.occursIn (String.ofList whole))

def endingOf (path : String) : List Char :=
  let name := (Text.takeEnd ((path.toList.reverse.takeWhile (· != '/')).length) path.toList).dropWhile (· == '.')
  let ending := name.reverse.takeWhile (· != '.')
  if ending.length == name.length then [] else '.' :: ending.reverse

def plainEndings : List (List Char) := [".ts", ".mts", ".cts"].map String.toList

def Script.Dialect.ofPath (path : String) : Script.Dialect :=
  if plainEndings.contains (Text.lower (endingOf path)) then .plain else .markup

namespace Usage

/-- The two objects that hold variables: the one of the server process and the one of browser bundles. -/
inductive Chain
  | server
  | client
deriving Repr, DecidableEq

structure Site where
  file : String
  framework : Framework
deriving Repr

def Site.isClientSide (site : Site) (chain : Chain) (name : String) : Bool :=
  chain == .client || isClientPath site.file || (name != dynamicName && site.framework.exposes name)

end Usage
end EnvAudit
