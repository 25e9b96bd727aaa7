import TagAtlas.Text.Search

/-!
# Paths

A path is read as a row of components. Repeated slashes and dots inside a path say nothing; a
leading slash, a leading dot and steps to the parent are components.
-/

namespace TagAtlas.Path

inductive Component where
  | root
  | current
  | parent
  | named (name : String)
  deriving DecidableEq, Repr

def Component.text : Component → String
  | .root => "/"
  | .current => "."
  | .parent => ".."
  | .named name => name

/-- The components of pieces between slashes, after the first. -/
def tailComponents (pieces : List String) : List Component :=
  pieces.filterMap fun p =>
    if p = "" || p = "." then none else if p = ".." then some .parent else some (.named p)

def components (path : String) : List Component :=
  if path = "" then []
  else match Text.splitOn '/' path with
    | "" :: rest => .root :: tailComponents rest
    | "." :: rest => .current :: tailComponents rest
    | pieces => tailComponents pieces

/-- The components after those of another path, if the path begins with them. -/
def after? : List Component → List Component → Option (List Component)
  | [], path => some path
  | _ :: _, [] => none
  | b :: base, c :: path => if b = c then after? base path else none

/-- A path relative to another, with slashes; the path itself when it does not lie below. -/
def relativeTo (root path : String) : String :=
  let cs := components path
  "/".intercalate (((after? (components root) cs).getD cs).map Component.text)

/-- The name of the last component, if it has one. -/
def lastName? (cs : List Component) : Option String :=
  match cs.getLast? with
  | some (.named name) => some name
  | _ => none

/-- The extension of a file name: what follows its last dot, unless nothing precedes that. -/
def extension? (name : String) : Option String :=
  match (Text.splitOn '.' name).reverse with
  | last :: before :: rest => if rest.isEmpty && before = "" then none else some last
  | _ => none

def folderName? (path : String) : Option String :=
  match (components path).reverse with
  | [] | .root :: _ => none
  | _ :: rest => lastName? rest.reverse

end TagAtlas.Path
