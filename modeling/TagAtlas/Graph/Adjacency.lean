import TagAtlas.Dict

/-!
# Adjacency lists

A directed graph over text ids: each declared id with its successors, which may be repeated, in
any order, and not declared themselves.
-/

namespace TagAtlas

abbrev Adjacency := Dict (List String)

namespace Adjacency

/-- The successors of an id; none when it is not declared. -/
def successors (g : Adjacency) (id : String) : List String := (g.find? id).getD []

/-- The ids that are declared or occur as successors, each once, in increasing order. -/
def nodes (g : Adjacency) : List String := Dict.sortedSet (g.keys ++ g.values.flatten)

end Adjacency

end TagAtlas
