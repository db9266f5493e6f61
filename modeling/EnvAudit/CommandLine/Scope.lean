import EnvAudit.CommandLine.Request
import EnvAudit.Config.Search
import EnvAudit.Glob.Selection
import EnvAudit.Matrix.Survey

/-! The part of the disk that a command looks at. The rest need not be read before it is run. -/
namespace EnvAudit.CommandLine

structure Selection where
  root : Path
  included : List String
  excluded : List String
deriving Repr, DecidableEq

structure Scope where
  directories : List Path := []
  files : List Path := []
  sources : Option Selection := none
deriving Repr, DecidableEq

namespace Selection

def enters (selection : Selection) (path : String) : Bool :=
  match Glob.excludes (selection.excluded.map String.toList) path.toList with
  | .ok excluded => !excluded
  | .error _ => false

def keeps (selection : Selection) (path : String) : Bool :=
  match Glob.globs (selection.included.map String.toList) with
  | .ok globs => globs.any (Glob.covers · path.toList) && selection.enters path
  | .error _ => false

end Selection

def Target.scope (target : Target) (working : Path) : Scope :=
  let root := Path.resolve working (.ofString target.directory)
  { directories := [root]
    files := (target.config.map root.child).toList ++ [root.child "pyproject.toml", root.child "package.json"]
      ++ root.withParents.flatMap fun directory => Config.fileNames.map directory.child }

def Request.declarationFiles (request : Request) (config : Config) : List String :=
  match request with
  | .check _ (some environment) .. => (config.inEnvironment environment).declarationFiles ++ config.declarationFiles
  | .compare .. => (Matrix.definitions config).flatMap (·.files)
  | _ => config.declarationFiles

def Request.scope (request : Request) (config : Config) : Scope :=
  let root := Path.ofString config.root
  let written := match request with
    | .sync _ _ output => [(root.child (output.getD config.template)).parent]
    | _ => []
  { directories := root :: written
    files := (request.declarationFiles config ++ [config.template, "package.json"]).map root.child
    sources := match request with
      | .check .. | .sync .. => some ⟨root, config.sources, config.exclude⟩
      | _ => none }

def Order.firstScope (working : Path) (order : Order) : Scope :=
  match order.request with
  | .start directory _ => { directories := [Path.resolve working (.ofString directory)] }
  | request => ((request.target?).map fun target => target.scope working).getD {}

def Order.secondScope (disk : Disk) (order : Order) : Scope :=
  match order.request.target? with
  | none => {}
  | some target =>
    match (Config.search disk target.config (.ofString target.directory)).outcome.1 with
    | .ok found => order.request.scope found.config
    | .error _ => {}

end EnvAudit.CommandLine
