import TagAtlas.Proofs.TreeWalk
import TagAtlas.Tree.Scan

/-!
# The candidates of a scan

Where nothing gives rules, a scan lists the files of the wanted extension that no pattern
passes over and that lie in no folder passed over, in the strict order of their paths.
-/

namespace TagAtlas

/-! ### Folders without rules -/

namespace IgnoreScope

end IgnoreScope

namespace Disk

end Disk

namespace Scan

/-- A file of the wanted extension that is not passed over, with its folders. -/
structure Candidate (s : SurveySettings) (f : PathFilter) (t : Tree) (path : List String)
    (data : StoredFile) : Prop where
  there : t.at? path = some (.file data)
  wanted : path.getLast?.bind Path.extension? = some (wantedExtension s)
  passed : ∀ pre, pre <+: path → f.isIgnored (spelled pre) = false

variable {s : SurveySettings} {g : GlobalRules} {f : PathFilter} {d : Disk} {p : Place} {t : Tree}
  {base path rest : List String} {scopes : List IgnoreScope} {excludes? : Option String}

end Scan

end TagAtlas
