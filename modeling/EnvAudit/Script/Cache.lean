import EnvAudit.Script.Tree

/-! A cache of syntax trees. It keeps the trees of the sources that were parsed last, up to its capacity, and gives a
kept tree again instead of making another one. -/
namespace EnvAudit.Script

structure CachedTree where
  dialect : Dialect
  source : List Char
  number : Nat
  tree : Option Node
deriving Repr

def CachedTree.isFor (dialect : Dialect) (source : List Char) (cached : CachedTree) : Bool :=
  cached.dialect == dialect && cached.source == source

/-- The trees that are kept, the one used last first, and the number of parses so far. -/
structure Cache where
  capacity : Nat
  trees : List CachedTree := []
  parses : Nat := 0
deriving Repr

namespace Cache

def clear (cache : Cache) : Cache := { cache with trees := [] }

/-- The tree of a source, and the cache in which it is the one used last. A tree that is not kept is made by the given
parser. -/
def parse (parser : Dialect → List Char → Option Node) (dialect : Dialect) (source : List Char) (cache : Cache) :
    CachedTree × Cache :=
  let others := cache.trees.filter fun cached => !cached.isFor dialect source
  match cache.trees.find? (·.isFor dialect source) with
  | some cached => (cached, { cache with trees := cached :: others, parses := cache.parses + 1 })
  | none =>
    let cached := ⟨dialect, source, cache.parses, parser dialect source⟩
    (cached, { cache with trees := (cached :: others).take cache.capacity, parses := cache.parses + 1 })

end Cache
end EnvAudit.Script
