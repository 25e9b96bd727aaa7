import TagAtlas.Graph.Adjacency

/-!
# Reachable nodes
-/

namespace TagAtlas

namespace Reachable

/-- The nodes met on the way from some tasks on. `fresh` lists the nodes that may still be met. -/
def walk (g : Adjacency) (fresh : List String) : List String → List String
  | [] => []
  | id :: tasks =>
    if id ∈ fresh then id :: walk g (fresh.erase id) (tasks ++ g.successors id)
    else walk g fresh tasks
  termination_by tasks => (fresh.length, tasks.length)
  decreasing_by
    · refine Prod.Lex.left _ _ ?_
      have hw : id ∈ fresh := by assumption
      have hpos := List.length_pos_of_mem hw
      have he := List.length_erase_of_mem hw
      omega
    · exact Prod.Lex.right _ (by simp)

end Reachable

/-- The ids other than the start that a path from the start leads to, in increasing order. -/
def Adjacency.reachable (g : Adjacency) (start : String) : List String :=
  Dict.sortedSet (Reachable.walk g (g.nodes.erase start) (g.successors start))

end TagAtlas
