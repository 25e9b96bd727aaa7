import TagAtlas.Failure
import TagAtlas.Glob.Match
import TagAtlas.Text.Search
import TagAtlas.Text.Shown

/-!
# Paths that are passed over

A pattern passes over a path when it matches the base name as a glob, or occurs in the path.
-/

namespace TagAtlas

/-- The patterns of paths that are passed over. -/
structure PathFilter where
  globs : List Glob
  parts : List String

namespace PathFilter

/-- The name after the last slash of a path. -/
def baseName (path : String) : String := ((Text.splitOn '/' path).getLast?).getD path

/-- The report of a pattern that is not a glob. -/
def faultText (pattern : String) (fault : Glob.Fault) : String :=
  "bad ignore pattern " ++ Text.shown pattern ++ ": error parsing glob '" ++ pattern ++ "': " ++
    fault.message

def globOf (pattern : String) : Except Failure Glob :=
  match Glob.ofName pattern with
  | .ok g => .ok g
  | .error fault => .error (.invalidInput (faultText pattern fault))

def ofPatterns (patterns : List String) : Except Failure PathFilter :=
  (patterns.mapM globOf).map fun globs => ⟨globs, patterns.filter (· ≠ "")⟩

/-- Whether a path is passed over. The empty path never is. -/
def isIgnored (f : PathFilter) (path : String) : Bool :=
  path ≠ "" && (f.globs.any (·.holds (baseName path)) || f.parts.any (Text.hasPart path))

end PathFilter

end TagAtlas
