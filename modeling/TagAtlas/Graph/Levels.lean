import TagAtlas.Graph.Adjacency

/-!
# Levels

The level of a node is one more than the largest level among its successors, and zero without
successors. The search is depth first; a successor on the path to the node itself is passed over,
so that every node gets a level whether or not the graph has cycles.
-/

namespace TagAtlas.Levels

/-- A node on the path, the successors it still has to look at, and its level so far. -/
structure Frame where
  id : String
  pending : List String
  level : Nat
  deriving DecidableEq, Repr

/-- Raises the level of the last node of a path above a successor's. -/
def raise (level : Nat) : List Frame → List Frame
  | [] => []
  | f :: rest => { f with level := max f.level (level + 1) } :: rest

def effort (path : List Frame) : Nat := path.foldr (fun f n => f.pending.length + 1 + n) 0

theorem effort_raise (level : Nat) (path : List Frame) : effort (raise level path) = effort path := by
  cases path <;> rfl

/-- Finishes the nodes of a path, last one first. `fresh` lists the nodes that the search has not
met, `done` the levels of those it has finished. -/
def settle (g : Adjacency) (fresh : List String) (done : Dict Nat) : List Frame → Dict Nat
  | [] => done
  | ⟨v, [], level⟩ :: rest => settle g fresh (done.insert v level) (raise level rest)
  | ⟨v, w :: pending, level⟩ :: rest =>
    if w ∈ fresh then
      settle g (fresh.erase w) done (⟨w, g.successors w, 0⟩ :: ⟨v, pending, level⟩ :: rest)
    else match done.find? w with
      | some below => settle g fresh done (⟨v, pending, max level (below + 1)⟩ :: rest)
      | none => settle g fresh done (⟨v, pending, level⟩ :: rest)
  termination_by path => (fresh.length, effort path)
  decreasing_by
    · refine Prod.Lex.right _ ?_
      rw [effort_raise]
      simp [effort]
    · refine Prod.Lex.left _ _ ?_
      have hw : w ∈ fresh := by assumption
      have hpos := List.length_pos_of_mem hw
      have he := List.length_erase_of_mem hw
      omega
    · refine Prod.Lex.right _ ?_
      simp [effort]
    · refine Prod.Lex.right _ ?_
      simp [effort]

/-- Levels a node and all it reaches, unless it has its level. -/
def visit (g : Adjacency) (done : Dict Nat) (id : String) : Dict Nat :=
  if done.contains id then done
  else
    let fresh := (g.nodes.filter fun v => !done.contains v).erase id
    settle g fresh done [⟨id, g.successors id, 0⟩]

end Levels

namespace Adjacency

/-- The level of every declared id and every successor. -/
def levels (g : Adjacency) : Dict Nat := g.keys.foldl (Levels.visit g) .empty

end Adjacency

end TagAtlas
