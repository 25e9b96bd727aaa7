import TagAtlas.Access.Synthesis
import TagAtlas.Proofs.SurveyMergeSteps

/-!
# Merging with the heeded tags only

A tag of no known type that is not about security is inert. To leave the inert tags out of some
files and merge them is to merge the files and leave the inert tags out of the survey.
-/

namespace TagAtlas

namespace Tag

/-- Whether a tag is of no known type and not about security. -/
def isInert (t : Tag) : Bool := !t.type.isKnown && !SecurityNote.concerns t

def heeded (tags : List Tag) : List Tag := tags.filter fun t => !t.isInert

theorem heeded_append (l m : List Tag) : heeded (l ++ m) = heeded l ++ heeded m :=
  List.filter_append l m

theorem and_not_isInert {test : Tag → Bool} (htest : ∀ t, t.isInert = true → test t = false)
    (t : Tag) : (test t && !t.isInert) = test t := by
  cases hinert : t.isInert with
  | true => rw [htest t hinert, Bool.false_and]
  | false => rw [Bool.not_false, Bool.and_true]

/-- A test that inert tags fail finds the same tags among the heeded ones. -/
theorem filter_heeded {test : Tag → Bool} (htest : ∀ t, t.isInert = true → test t = false)
    (tags : List Tag) : (heeded tags).filter test = tags.filter test := by
  unfold heeded
  rw [List.filter_filter]
  exact List.filter_congr fun t _ => and_not_isInert htest t

theorem any_heeded {test : Tag → Bool} (htest : ∀ t, t.isInert = true → test t = false)
    (tags : List Tag) : (heeded tags).any test = tags.any test := by
  unfold heeded
  rw [List.any_filter]
  congr 1
  funext t
  rw [Bool.and_comm]
  exact and_not_isInert htest t

theorem type_ne_of_isInert {t : Tag} {type : TagType} (h : t.isInert = true)
    (htype : type.isKnown = true) : t.type ≠ type := by
  rintro rfl
  rw [isInert, htype] at h
  cases h

end Tag

def FileSummary.heeded (f : FileSummary) : FileSummary := { f with tags := Tag.heeded f.tags }

def Module.heeded (m : Module) : Module := { m with tags := Tag.heeded m.tags }

def Survey.heeded (s : Survey) : Survey :=
  { s with
    modules := s.modules.map Module.heeded
    tags := Tag.heeded s.tags
    files := s.files.map FileSummary.heeded }

theorem FileSummary.tagsOf_heeded (f : FileSummary) {type : TagType}
    (htype : type.isKnown = true) : f.heeded.tagsOf type = f.tagsOf type :=
  Tag.filter_heeded (fun _ h => decide_eq_false (Tag.type_ne_of_isInert h htype)) f.tags

namespace Survey

variable (s : Survey) (f : FileSummary)

theorem module?_heeded (name : String) :
    s.heeded.module? name = (s.module? name).map Module.heeded := by
  exact List.find?_map

theorem hasModule_heeded (name : String) : s.heeded.hasModule name = s.hasModule name := by
  rw [hasModule, module?_heeded, Option.isSome_map]
  rfl

theorem updateModule_heeded {g h : Module → Module} (hgh : ∀ m, (g m).heeded = h m.heeded)
    (name : String) : s.heeded.updateModule name h = (s.updateModule name g).heeded := by
  have hgo : ∀ modules : List Module, updateModule.go name h (modules.map Module.heeded) =
      (updateModule.go name g modules).map Module.heeded := by
    intro modules
    induction modules with
    | nil => rfl
    | cons m rest ih =>
      rw [List.map_cons, updateModule.go, updateModule.go, ih]
      split
      next hname => rw [if_pos (show m.name = name from hname), List.map_cons, hgh]
      next hname => rw [if_neg (show ¬ m.name = name from hname), List.map_cons]
  unfold updateModule
  rw [show s.heeded.modules = s.modules.map Module.heeded from rfl, hgo]
  rfl

theorem addDependency_heeded (d : Dependency) :
    s.heeded.addDependency d = (s.addDependency d).heeded := by
  unfold addDependency
  rw [show s.heeded.hasDependency d = s.hasDependency d from rfl]
  split <;> rfl

theorem withModule_heeded (name : String) :
    s.heeded.withModule f.heeded name = (s.withModule f name).heeded := by
  unfold withModule
  rw [hasModule_heeded]
  split
  · rfl
  · simp only [heeded, List.map_append, List.map_cons, List.map_nil]
    rfl

theorem join_heeded (m : Module) : (m.join f).heeded = m.heeded.join f.heeded := by
  unfold Module.join Module.addFile?
  rw [show m.heeded.files = m.files from rfl, show f.heeded.path = f.path from rfl]
  split
  next joined h =>
    split at h
    · cases h
    next hfile =>
      cases h
      rw [if_neg hfile]
      simp only [Module.heeded, Tag.heeded_append]
      rfl
  next h =>
    split at h
    next hfile => rw [if_pos hfile]
    · cases h

theorem joinModule_eq (name : String) : s.joinModule f name =
    { (s.withModule f name).updateModule name fun m => m.join f with
      warnings := s.warnings ++ (((s.withModule f name).module? name).map fun m =>
        if m.packageName = f.packageName then [] else [packageConflict m f]).getD [] } := by
  unfold joinModule withModule
  cases s.hasModule name with
  | true =>
    simp only [if_pos]
    cases s.module? name <;> rfl
  | false =>
    simp only [Bool.false_eq_true, if_false]
    cases Survey.module? _ name <;> rfl

theorem joinModule_heeded (name : String) :
    s.heeded.joinModule f.heeded name = (s.joinModule f name).heeded := by
  have hupdate : (s.withModule f name).heeded.updateModule name (fun m => m.join f.heeded) =
      ((s.withModule f name).updateModule name fun m => m.join f).heeded :=
    updateModule_heeded _ (join_heeded f) name
  rw [joinModule_eq, joinModule_eq, withModule_heeded, module?_heeded, hupdate, Option.map_map]
  rfl

theorem need_heeded (m : Module) (name : String) : (m.need name).heeded = m.heeded.need name := by
  unfold Module.need Module.addDependency?
  rw [show m.heeded.name = m.name from rfl, show m.heeded.dependencies = m.dependencies from rfl]
  split <;> rfl

theorem declareDependency_heeded (source : String) (kind : DependencyKind) (t : Tag) :
    s.heeded.declareDependency source kind t = (s.declareDependency source kind t).heeded := by
  unfold declareDependency
  dsimp only
  split
  · rfl
  · rw [addDependency_heeded]
    exact updateModule_heeded _ (fun m => need_heeded m t.valueText) source

theorem declareImport_heeded (source path : String) :
    s.heeded.declareImport source path = (s.declareImport source path).heeded := by
  unfold declareImport
  rw [show s.heeded.modulePath = s.modulePath from rfl]
  split
  · split
    · rfl
    · exact addDependency_heeded s _
  · rfl

theorem joinFile_heeded : s.heeded.joinFile f.heeded = (s.joinFile f).heeded := by
  have hnames : f.heeded.moduleNames = f.moduleNames := by
    unfold FileSummary.moduleNames
    rw [f.tagsOf_heeded rfl]
  have htags : ({ s.heeded with tags := s.heeded.tags ++ f.heeded.tags } : Survey) =
      ({ s with tags := s.tags ++ f.tags } : Survey).heeded := by
    simp only [heeded, Tag.heeded_append]
    rfl
  unfold joinFile
  rw [hnames, htags]
  exact List.foldl_hom heeded fun s name => joinModule_heeded s f name

theorem declareTags_heeded : s.heeded.declareTags f.heeded = (s.declareTags f).heeded := by
  unfold declareTags
  rw [f.tagsOf_heeded rfl, f.tagsOf_heeded rfl, show f.heeded.owner = f.owner from rfl]
  rw [List.foldl_hom heeded fun s t => declareDependency_heeded s f.owner .module t,
    List.foldl_hom heeded fun s t => declareDependency_heeded s f.owner .requires t]

theorem declareImports_heeded : s.heeded.declareImports f.heeded = (s.declareImports f).heeded := by
  unfold declareImports
  rw [show f.heeded.moduleName = f.moduleName from rfl, show f.heeded.imports = f.imports from rfl]
  split
  · exact List.foldl_hom heeded fun s path => declareImport_heeded s _ path
  · rfl

theorem mergeFile_heeded : s.heeded.mergeFile f.heeded = (s.mergeFile f).heeded := by
  rw [mergeFile_eq, mergeFile_eq, joinFile_heeded, declareTags_heeded, declareImports_heeded]

/-- Inert tags can be left out before files are merged or afterwards. -/
theorem ofFiles_heeded (files : List FileSummary) :
    ofFiles s.heeded (files.map FileSummary.heeded) = (ofFiles s files).heeded := by
  unfold ofFiles
  rw [List.foldl_map, List.foldl_hom heeded fun s f => mergeFile_heeded s f]
  rfl

end Survey

end TagAtlas
