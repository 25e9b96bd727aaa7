import TagAtlas.Tree.Basic

/-!
# Walking a tree

The files of a tree, folder by folder. In a folder, a file is placed by its name and a folder by
its name with a slash; so the files come in the order of their paths. Entries may be left out, by
what is known in the folders above them.
-/

namespace TagAtlas

structure Pruning (σ : Type) where
  enter : σ → List String → List (String × Tree) → σ
  keeps : σ → List String → Bool → Bool

structure Met where
  path : List String
  data : StoredFile

namespace Tree

def walkKey (name : String) (t : Tree) : String := if t.isFolder then name ++ "/" else name

/-- What an entry contributes to the walk of its folder, and its place there. -/
structure Visited where
  key : String
  files : List Met

/-- Whether an entry comes before another or in its place. -/
def Visited.precedes (a b : Visited) : Bool := a.key ≤ b.key

/-- The files of visited entries, in their order. -/
def Visited.inOrder (visited : List Visited) : List Met :=
  (visited.mergeSort Visited.precedes).flatMap Visited.files

mutual
def walk {σ : Type} (p : Pruning σ) (known : σ) (path : List String) : Tree → List Met
  | .file data => [⟨path, data⟩]
  | .folder entries =>
    Visited.inOrder (walkEntries p (p.enter known path entries) path entries)

def walkEntries {σ : Type} (p : Pruning σ) (known : σ) (path : List String) :
    List (String × Tree) → List Visited
  | [] => []
  | (name, t) :: rest =>
    let here := path ++ [name]
    let others := walkEntries p known path rest
    if p.keeps known here t.isFolder then ⟨t.walkKey name, t.walk p known here⟩ :: others
    else others
end

end Tree

end TagAtlas
