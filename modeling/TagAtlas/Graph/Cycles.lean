import TagAtlas.Graph.Adjacency

/-!
# Cycles

A depth-first search from each node in turn; an edge back to the path closes a cycle. Each cycle is
listed once, turned so that its smallest id comes first.
-/

namespace TagAtlas.Cycles

def least? : List String → Option String
  | [] => none
  | id :: rest =>
    match least? rest with
    | some other => some (if other < id then other else id)
    | none => some id

/-- Turns a cycle so that its first smallest id comes first. -/
def canonical (cycle : List String) : List String :=
  match least? cycle with
  | some least => cycle.dropWhile (· ≠ least) ++ cycle.takeWhile (· ≠ least)
  | none => []

/-- A node on the path and the successors it still has to look at. -/
structure Frame where
  id : String
  pending : List String
  deriving DecidableEq, Repr

/-- The part of a path from an id to its end, when the id lies on the path; the path is listed
last node first. -/
def since? (id : String) : List Frame → Option (List String)
  | [] => none
  | f :: rest =>
    if f.id = id then some [f.id] else (since? id rest).map (· ++ [f.id])

def effort (path : List Frame) : Nat := path.foldr (fun f n => f.pending.length + 1 + n) 0

/-- The cycles that the search closes from a path on, in the order in which they are met. `fresh`
lists the nodes that the search has not met. -/
def search (g : Adjacency) (fresh : List String) : List Frame → List (List String)
  | [] => []
  | ⟨_, []⟩ :: rest => search g fresh rest
  | ⟨v, w :: pending⟩ :: rest =>
    if w ∈ fresh then
      search g (fresh.erase w) (⟨w, g.successors w⟩ :: ⟨v, pending⟩ :: rest)
    else match since? w (⟨v, pending⟩ :: rest) with
      | some cycle => canonical cycle :: search g fresh (⟨v, pending⟩ :: rest)
      | none => search g fresh (⟨v, pending⟩ :: rest)
  termination_by path => (fresh.length, effort path)
  decreasing_by
    · exact Prod.Lex.right _ (by simp [effort])
    · refine Prod.Lex.left _ _ ?_
      have hw : w ∈ fresh := by assumption
      have hpos := List.length_pos_of_mem hw
      have he := List.length_erase_of_mem hw
      omega
    · exact Prod.Lex.right _ (by simp [effort])
    · exact Prod.Lex.right _ (by simp [effort])

def searchFrom (g : Adjacency) (start : String) : List (List String) :=
  search g (g.nodes.erase start) [⟨start, g.successors start⟩]

/-- Places a cycle in an increasing list of cycles, unless it is there. -/
def insertCycle (cycle : List String) : List (List String) → List (List String)
  | [] => [cycle]
  | c :: rest =>
    if cycle < c then cycle :: c :: rest
    else if cycle = c then c :: rest
    else c :: insertCycle cycle rest

end Cycles

namespace Adjacency

/-- The cycles that the searches from all declared ids close, in increasing order. -/
def cycles (g : Adjacency) : List (List String) :=
  (g.keys.flatMap (Cycles.searchFrom g)).foldl (fun found c => Cycles.insertCycle c found) []

end Adjacency

end TagAtlas
