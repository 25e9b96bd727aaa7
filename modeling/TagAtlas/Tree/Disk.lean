import TagAtlas.Text.Search
import TagAtlas.Tree.Basic

/-!
# Finding files by path

A path is followed from the top or from the folder where one is, name by name. Dots and empty names
stay in a folder, and two dots lead to the folder above.
-/

namespace TagAtlas

/-- A tree and the place from which paths are followed. -/
structure Disk where
  top : Tree
  here : List String

structure Place where
  names : List String
  tree : Tree

namespace Place

def absolute (p : Place) : String := "/" ++ "/".intercalate p.names

end Place

namespace Disk

/-- What lies at the end of a row of names from the top. -/
def place? (d : Disk) (names : List String) : Option Place := (d.top.at? names).map (Place.mk names)

def step (d : Disk) (p : Place) (name : String) : Option Place :=
  if !p.tree.isFolder then none
  else if name = "" || name = "." then some p
  else if name = ".." then d.place? p.names.dropLast
  else d.place? (p.names ++ [name])

def locate? (d : Disk) (path : String) : Option Place :=
  if path = "" then none
  else
    let start := if Text.startsWith path "/" then [] else d.here
    (d.place? start).bind fun p => (Text.splitOn '/' path).foldlM d.step p

def file? (d : Disk) (path : String) : Option StoredFile :=
  match d.locate? path with
  | some ⟨_, .file data⟩ => some data
  | _ => none

def join (folder name : String) : String :=
  if folder = "" || Text.endsWith folder "/" then folder ++ name else folder ++ "/" ++ name

end Disk

end TagAtlas
