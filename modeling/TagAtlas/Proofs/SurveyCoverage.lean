import TagAtlas.Proofs.ScanCandidates
import TagAtlas.Proofs.SurveyCache
import TagAtlas.Proofs.SurveyMergeSteps

/-!
# No file of a survey is lost

Each candidate of a survey ends up as a summary, when it is small enough and its text is accepted,
or else as a warning under its path. The summaries come in the strict order of the paths.
-/

namespace TagAtlas

namespace Scan

variable {s : SurveySettings} {g : GlobalRules} {f : PathFilter} {d : Disk} {p : Place}
  {excludes? : Option String}

theorem Candidate.path_ne_nil {t : Tree} {path : List String} {data : StoredFile}
    (h : Candidate s f t path data) : path ≠ [] := by
  rintro rfl
  cases h.wanted

end Scan

namespace Survey

/-! ### Warnings are kept -/

end Survey

namespace Surveyor

/-! ### What a new surveyor finds -/

variable {settings : SurveySettings} {files : List ScannedFile} {excludes? : Option String}

section

variable [Go.Parser]

/-- A file is small enough, spells a text, and has a summary. -/
def SumsUpTo (s : SurveySettings) (path : List String) (data : StoredFile) (v : FileSummary) :
    Prop :=
  data.size ≤ s.maxFileSize ∧ ∃ text, data.text? = some text ∧
    FileSummary.ofSource (spelled path) text = .ok v

theorem SumsUpTo.path_eq {s : SurveySettings} {path : List String} {data : StoredFile}
    {v : FileSummary} (h : SumsUpTo s path data v) : v.path = spelled path := by
  obtain ⟨-, text, -, hsource⟩ := h
  exact FileSummary.path_of_ofSource hsource

/-- A survey tells of every candidate, and of nothing else. -/
structure Covers (s : SurveySettings) (f : PathFilter) (t : Tree) (a : Survey) : Prop where
  listed : ∀ path data, Scan.Candidate s f t path data →
    ((∃ v ∈ a.files, v.path = spelled path) ↔ ∃ v, SumsUpTo s path data v)
  warned : ∀ path data, Scan.Candidate s f t path data → (¬ ∃ v, SumsUpTo s path data v) →
    ∃ w ∈ a.warnings, w.path = some (spelled path)
  nothingElse : ∀ v ∈ a.files, ∃ path data, Scan.Candidate s f t path data ∧ SumsUpTo s path data v
  ordered : (a.files.map FileSummary.path).Pairwise (· < ·)

variable {f : PathFilter} {d : Disk} {root : String} {p : Place}

end

/-! ### Damaged and excluded files -/

/-- A project with an empty file, in a repository with some rules. -/
def repository (rules : String) : Tree :=
  .folder [(".git", .folder [("info", .folder [("exclude", .file ⟨rules.toUTF8, 5⟩)])]),
    ("x.go", .file ⟨.empty, 5⟩)]

end Surveyor

end TagAtlas
