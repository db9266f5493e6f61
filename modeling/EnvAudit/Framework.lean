import EnvAudit.Text.Basic

/-! The frameworks whose conventions the program knows: which variables reach the browser, which belong to the
framework itself, and which files give a framework away. -/
namespace EnvAudit

inductive Framework
  | nextjs
  | vite
  | cra
  | node
deriving Repr, DecidableEq, Inhabited

namespace Framework

def all : List Framework := [.nextjs, .vite, .cra, .node]

def name : Framework → String
  | .nextjs => "nextjs"
  | .vite => "vite"
  | .cra => "cra"
  | .node => "node"

def displayName : Framework → String
  | .nextjs => "Next.js"
  | .vite => "Vite"
  | .cra => "Create React App"
  | .node => "Node.js"

def clientPrefixes : Framework → List String
  | .nextjs => ["NEXT_PUBLIC_"]
  | .vite => ["VITE_"]
  | .cra => ["REACT_APP_"]
  | .node => []

def isServerOnly (framework : Framework) : Bool := framework == .node

def configFiles : Framework → List String
  | .nextjs => ["next.config.js", "next.config.mjs", "next.config.ts"]
  | .vite => ["vite.config.js", "vite.config.ts", "vite.config.mjs"]
  | .cra => []
  | .node => []

def ownVariables : Framework → List String
  | .nextjs =>
    ["NEXT_TELEMETRY_DISABLED", "NEXT_RUNTIME", "VERCEL", "VERCEL_ENV", "VERCEL_URL", "VERCEL_REGION"]
  | .vite => ["VITE_CJS_TRACE", "VITE_CJS_IGNORE_WARNING"]
  | .cra => ["BROWSER", "GENERATE_SOURCEMAP", "CI"]
  | .node => []

def ofName? (name : String) : Option Framework := all.find? (·.name == name)

/-- The framework with a name; an unknown name has the conventions of a plain server. -/
def named (name : String) : Framework := (ofName? name).getD .node

def exposes (framework : Framework) (name : String) : Bool :=
  !framework.isServerOnly && framework.clientPrefixes.any (beginsWith name)

/-- The dependencies that tell a framework, in the order of their weight. -/
def markers : List (String × Framework) := [("next", .nextjs), ("vite", .vite), ("react-scripts", .cra)]

end Framework
end EnvAudit
