import TagAtlas.Config.Basic
import TagAtlas.Glob.PathFilter
import TagAtlas.Path
import TagAtlas.Tree.Disk
import TagAtlas.Tree.IgnoreRules
import TagAtlas.Tree.Walk

/-!
# Scanning a project

A scan lists the files below a folder that have the wanted extension and are not passed over.
Files that are too large are reported instead.
-/

namespace TagAtlas

structure ScannedFile where
  path : List String
  absolute : String
  data : StoredFile

def ScannedFile.relative (f : ScannedFile) : String := "/".intercalate f.path

structure Oversized where
  relative : String
  size : Nat
  limit : Nat
  deriving DecidableEq, Repr

def Oversized.text (o : Oversized) : String :=
  o.relative ++ ": skipped, " ++ Nat.repr o.size ++ " bytes exceeds max_file_size " ++
    Nat.repr o.limit

structure Scan where
  files : List ScannedFile
  oversized : List Oversized

namespace Scan

def wantedExtension (s : SurveySettings) : String :=
  String.ofList (s.extension.toList.dropWhile (· = '.'))

/-- Leaves out what a filter passes over and what ignore files name. Paths are counted from the
folder at `base`. -/
def pruning (g : GlobalRules) (f : PathFilter) (base : List String) :
    Pruning (List IgnoreScope) where
  enter scopes path entries := IgnoreScope.ofFolder (base ++ path) (.folder entries) :: scopes
  keeps scopes path isFolder :=
    !IgnoreScope.ignores g scopes (base ++ path) isFolder && !f.isIgnored ("/".intercalate path)

def isWanted (s : SurveySettings) (m : Met) : Bool :=
  (m.path.getLast?.bind Path.extension?) = some (wantedExtension s)

def found (p : Place) (m : Met) : ScannedFile :=
  ⟨m.path, (Place.mk (p.names ++ m.path) (.file m.data)).absolute, m.data⟩

/-- The rules of Git for all repositories, from the file at a path. -/
def globalRules (d : Disk) (excludes? : Option String) : GlobalRules where
  here := d.here
  rules := ((excludes?.bind d.file?).map IgnoreRule.ofFile).getD []

/-- The files that a walk meets below a folder and that have the wanted extension. -/
def candidates (s : SurveySettings) (g : GlobalRules) (f : PathFilter) (d : Disk) (p : Place) :
    List ScannedFile :=
  let scopes := IgnoreScope.above d.top [] [] p.names
  ((p.tree.walk (pruning g f p.names) scopes []).filter (isWanted s)).map (found p)

def ofCandidates (s : SurveySettings) (files : List ScannedFile) : Scan where
  files := files.filter fun f => f.data.size ≤ s.maxFileSize
  oversized := (files.filter fun f => s.maxFileSize < f.data.size).map fun f =>
    ⟨f.relative, f.data.size, s.maxFileSize⟩

def rootOf (d : Disk) (root : String) : Except Failure Place :=
  match d.locate? root with
  | none => .error (.invalidRoot (root ++ " does not exist"))
  | some p =>
    if p.tree.isFolder then .ok p else .error (.invalidRoot (root ++ " is not a directory"))

/-- The scan of a root. The rules of Git for all repositories are at a path of their own, if there
are any. -/
def ofRoot (s : SurveySettings) (d : Disk) (root : String) (excludes? : Option String := none) :
    Except Failure Scan := do
  let p ← rootOf d root
  let f ← PathFilter.ofPatterns s.ignorePatterns
  pure (ofCandidates s (candidates s (globalRules d excludes?) f d p))

end Scan

end TagAtlas
