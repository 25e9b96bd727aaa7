import TagAtlas.Proofs.FirstOccurrences
import TagAtlas.Survey.Merge

/-!
# What merging one file changes

A file is merged in many steps, but what they change together is simple. The modules that it is the
first to name are put at the end; then the file is merged into each module, whatever the others
are. The edges that it declares are collected after the ones that were there.
-/

namespace TagAtlas

abbrev Dependency.Key := String × String × DependencyKind

/-- Whether a declared edge counts: it has a target, and that is not its source. -/
def Dependency.isProper (source target : String) : Bool := target ≠ "" && target ≠ source

theorem Dependency.isProper_iff {source target : String} :
    isProper source target = true ↔ target ≠ "" ∧ target ≠ source := by
  simp [isProper]

namespace FileSummary

def moduleNames (f : FileSummary) : List String :=
  ((f.tagsOf .module).map Tag.valueText).filter (· ≠ "")

def names (f : FileSummary) (name : String) : Bool := f.moduleNames.contains name

/-- What the tags of the file declare as dependencies of its owner. -/
def needs (f : FileSummary) : List String :=
  ((f.tagsOf .dependency ++ f.tagsOf .requires).map Tag.valueText).filter
    (Dependency.isProper f.owner)

theorem filterMap_tagsOf_module (f : FileSummary) :
    (f.tagsOf .module).filterMap (fun t => t.valueOf? .module) = f.moduleNames := by
  have htype : ∀ t ∈ f.tagsOf .module, t.type = .module := by
    intro t ht
    exact of_decide_eq_true (List.mem_filter.mp ht).2
  unfold moduleNames
  generalize f.tagsOf .module = tags at htype
  induction tags with
  | nil => rfl
  | cons t rest ih =>
    have hvalue : t.valueOf? .module = if t.valueText ≠ "" then some t.valueText else none := by
      simp [Tag.valueOf?, htype t List.mem_cons_self]
    rw [List.filterMap_cons, List.map_cons, List.filter_cons, hvalue,
      ih fun u hu => htype u (List.mem_cons_of_mem _ hu)]
    by_cases hv : t.valueText = "" <;> simp [hv]

end FileSummary

namespace Module

def join (m : Module) (f : FileSummary) : Module :=
  match m.addFile? f.path with
  | some joined => { joined with tags := joined.tags ++ f.tags }
  | none => m

def joinOf (found : List String) (f : FileSummary) (m : Module) : Module :=
  if m.name ∈ found then m.join f else m

def need (m : Module) (name : String) : Module := (m.addDependency? name).getD m

/-- What a file does to a module that it names or that is there. -/
def merge (m : Module) (f : FileSummary) : Module :=
  let joined := m.joinOf f.moduleNames f
  if m.name = f.owner then f.needs.foldl need joined else joined

@[simp] theorem name_join (m : Module) (f : FileSummary) : (m.join f).name = m.name := by
  unfold join addFile?
  split
  next joined h =>
    split at h
    · cases h
    · cases h; rfl
  next => rfl

@[simp] theorem name_joinOf (found : List String) (f : FileSummary) (m : Module) :
    (m.joinOf found f).name = m.name := by
  unfold joinOf
  split <;> simp

@[simp] theorem name_need (m : Module) (name : String) : (m.need name).name = m.name := by
  unfold need addDependency?
  split <;> rfl

@[simp] theorem name_foldl_need (m : Module) (names : List String) :
    (names.foldl need m).name = m.name := by
  induction names generalizing m with
  | nil => rfl
  | cons name rest ih => rw [List.foldl_cons, ih, name_need]

@[simp] theorem name_merge (m : Module) (f : FileSummary) : (m.merge f).name = m.name := by
  unfold merge
  split <;> simp

theorem join_join (m : Module) (f : FileSummary) : (m.join f).join f = m.join f := by
  by_cases h : f.path ∈ m.files <;> simp [join, addFile?, h]

/-- A file joins a module once, however often it names it. -/
theorem joinOf_concat (found : List String) (f : FileSummary) (name : String) (m : Module) :
    m.joinOf (found ++ [name]) f =
      if m.name = name then (m.joinOf found f).join f else m.joinOf found f := by
  by_cases hf : m.name ∈ found <;> by_cases hn : m.name = name <;>
    simp [joinOf, hf, hn]
  · simp [← hn, hf, join_join]
  · simp [← hn, hf]

end Module

namespace Survey

variable {s : Survey}

/-! ### Modules after a step -/

def names (s : Survey) : List String := s.modules.map Module.name

theorem hasModule_iff {name : String} : s.hasModule name = true ↔ name ∈ s.names := by
  simp [hasModule, module?, names]

theorem names_updateModule {g : Module → Module} (hg : ∀ m, (g m).name = m.name) (s : Survey)
    (name : String) : (s.updateModule name g).names = s.names := by
  have go : ∀ l, (updateModule.go name g l).map Module.name = l.map Module.name := by
    intro l
    induction l with
    | nil => rfl
    | cons m rest ih =>
      unfold updateModule.go
      split
      · simp [hg]
      · simp [ih]
  exact go s.modules

/-- Where names are distinct, the first module of a name is every module of that name. -/
theorem modules_updateModule {g : Module → Module} (hnames : s.names.Nodup) (name : String) :
    (s.updateModule name g).modules = s.modules.map fun m => if m.name = name then g m else m := by
  have go : ∀ l : List Module, (l.map Module.name).Nodup →
      updateModule.go name g l = l.map fun m => if m.name = name then g m else m := by
    intro l h
    induction l with
    | nil => rfl
    | cons m rest ih =>
      obtain ⟨hm, hrest⟩ := List.nodup_cons.mp h
      unfold updateModule.go
      by_cases heq : m.name = name
      · have hother : ∀ m' ∈ rest, m'.name ≠ name := by
          intro m' hm' he
          exact hm (heq.trans he.symm ▸ List.mem_map_of_mem hm')
        have hsame : rest.map (fun m => if m.name = name then g m else m) = rest := by
          rw [List.map_congr_left fun m' hm' => if_neg (hother m' hm'), List.map_id']
        simp [heq, hsame]
      · simp [heq, ih hrest]
  exact go s.modules hnames

/-- The modules after those that are new to the survey are put at the end. -/
def withModule (s : Survey) (f : FileSummary) (name : String) : Survey :=
  if s.hasModule name then s
  else { s with modules := s.modules ++ [Module.new name f.packageName] }

theorem names_withModule (s : Survey) (f : FileSummary) (name : String) :
    (s.withModule f name).names = if name ∈ s.names then s.names else s.names ++ [name] := by
  unfold withModule
  by_cases h : name ∈ s.names
  · rw [if_pos (hasModule_iff.mpr h), if_pos h]
  · rw [if_neg (mt hasModule_iff.mp h), if_neg h]
    simp [names, Module.new]

theorem names_joinModule (s : Survey) (f : FileSummary) (name : String) :
    (s.joinModule f name).names = if name ∈ s.names then s.names else s.names ++ [name] := by
  rw [← names_withModule s f name]
  exact names_updateModule (fun m => m.name_join f) (s.withModule f name) name

theorem names_foldl_joinModule (hnames : s.names.Nodup) (f : FileSummary) (found : List String) :
    (found.foldl (fun s name => s.joinModule f name) s).names = (s.names ++ found).eraseDups := by
  have h := collected_foldl (k := id) (fun s name => names_joinModule s f name) hnames found
  rwa [List.map_id] at h

/-- After a file has joined a module, each module was there or is new, and has been joined if it is
the one that the file names. -/
theorem mem_modules_joinModule (hnames : s.names.Nodup) {f : FileSummary} {name : String}
    {m' : Module} (h : m' ∈ (s.joinModule f name).modules) :
    ∃ m, m' = (if m.name = name then m.join f else m) ∧
      (m ∈ s.modules ∨ name ∉ s.names ∧ m = Module.new name f.packageName) := by
  have hnodup : (s.withModule f name).names.Nodup := by
    rw [names_withModule]
    split
    · exact hnames
    next hnew =>
      rw [← List.concat_eq_append]
      exact hnames.concat hnew
  have hmodules : (s.joinModule f name).modules = (s.withModule f name).modules.map
      fun m => if m.name = name then m.join f else m :=
    modules_updateModule (g := fun m => m.join f) hnodup name
  rw [hmodules] at h
  obtain ⟨m, hm, rfl⟩ := List.mem_map.mp h
  refine ⟨m, rfl, ?_⟩
  unfold withModule at hm
  split at hm
  · exact .inl hm
  next hnew =>
    rcases List.mem_append.mp hm with hm | hm
    · exact .inl hm
    · exact .inr ⟨mt hasModule_iff.mpr hnew, List.mem_singleton.mp hm⟩

theorem mem_modules_foldl_joinModule (hnames : s.names.Nodup) {f : FileSummary}
    {found : List String} {m' : Module}
    (h : m' ∈ (found.foldl (fun s name => s.joinModule f name) s).modules) :
    ∃ m, m' = m.joinOf found f ∧
      (m ∈ s.modules ∨
        m.name ∈ found ∧ m.name ∉ s.names ∧ m = Module.new m.name f.packageName) := by
  induction found using List.reverseRecOn generalizing m' with
  | nil => exact ⟨m', by simp [Module.joinOf], .inl h⟩
  | append_singleton found name ih =>
    rw [List.foldl_append, List.foldl_cons, List.foldl_nil] at h
    have hfound := names_foldl_joinModule hnames f found
    obtain ⟨m₁, rfl, hm₁⟩ := mem_modules_joinModule (hfound ▸ nodup_eraseDups _) h
    rcases hm₁ with hm₁ | ⟨hnew, rfl⟩
    · obtain ⟨m, rfl, hm⟩ := ih hm₁
      refine ⟨m, ?_, hm.imp_right fun ⟨hf, hrest⟩ => ⟨List.mem_append_left _ hf, hrest⟩⟩
      rw [m.name_joinOf, m.joinOf_concat]
    · rw [hfound, List.mem_eraseDups, List.mem_append, not_or] at hnew
      refine ⟨Module.new name f.packageName, ?_, .inr ⟨by simp [Module.new], hnew.1, rfl⟩⟩
      simp [Module.joinOf, Module.new]

@[simp] theorem modules_addDependency (s : Survey) (d : Dependency) :
    (s.addDependency d).modules = s.modules := by
  unfold addDependency
  split <;> rfl

/-- What declaring a dependency by a tag does to the modules. -/
theorem modules_declareDependency (hnames : s.names.Nodup) (source : String)
    (kind : DependencyKind) (t : Tag) :
    (s.declareDependency source kind t).modules =
      if Dependency.isProper source t.valueText then
        s.modules.map fun m => if m.name = source then m.need t.valueText else m
      else s.modules := by
  unfold declareDependency Dependency.isProper
  dsimp only
  by_cases h : t.valueText = "" ∨ t.valueText = source
  · rw [if_pos (by simpa using h), if_neg (by simpa [imp_iff_not_or] using h)]
  · rw [if_neg (by simpa using h), if_pos (by simpa using h)]
    have hsame : (s.addDependency ⟨source, t.valueText, kind, some t.line⟩).names.Nodup := by
      rwa [names, modules_addDependency]
    rw [← s.modules_addDependency ⟨source, t.valueText, kind, some t.line⟩]
    exact modules_updateModule (g := fun m => m.need t.valueText) hsame source

theorem names_declareDependency (hnames : s.names.Nodup) (source : String) (kind : DependencyKind)
    (t : Tag) : (s.declareDependency source kind t).names = s.names := by
  unfold names
  rw [modules_declareDependency hnames]
  split
  · rw [List.map_map]
    refine List.map_congr_left fun m _ => ?_
    by_cases hm : m.name = source <;> simp [hm]
  · rfl

theorem modules_foldl_declareDependency (hnames : s.names.Nodup) (source : String)
    (kind : DependencyKind) (tags : List Tag) :
    (tags.foldl (fun s t => s.declareDependency source kind t) s).modules =
      s.modules.map fun m => if m.name = source then
        ((tags.map Tag.valueText).filter (Dependency.isProper source)).foldl Module.need m
        else m := by
  induction tags generalizing s with
  | nil => simp
  | cons t rest ih =>
    have hnames' : (s.declareDependency source kind t).names.Nodup := by
      rwa [names_declareDependency hnames]
    rw [List.foldl_cons, ih hnames', modules_declareDependency hnames, List.map_cons,
      List.filter_cons]
    split
    · rw [List.map_map]
      refine List.map_congr_left fun m _ => ?_
      by_cases hm : m.name = source <;> simp [hm]
    · rfl

theorem names_foldl_declareDependency (hnames : s.names.Nodup) (source : String)
    (kind : DependencyKind) (tags : List Tag) :
    (tags.foldl (fun s t => s.declareDependency source kind t) s).names = s.names := by
  unfold names
  rw [modules_foldl_declareDependency hnames, List.map_map]
  refine List.map_congr_left fun m _ => ?_
  by_cases hm : m.name = source <;> simp [hm]

theorem modules_declareImport (s : Survey) (source path : String) :
    (s.declareImport source path).modules = s.modules := by
  unfold declareImport
  split
  · split
    · rfl
    · exact s.modules_addDependency _
  · rfl

theorem modules_foldl_declareImport (s : Survey) (source : String) (imports : List String) :
    (imports.foldl (fun s path => s.declareImport source path) s).modules = s.modules := by
  induction imports generalizing s with
  | nil => rfl
  | cons path rest ih => rw [List.foldl_cons, ih, modules_declareImport]

/-- A survey after the tags and the modules of a file, and before its dependencies. -/
def joinFile (s : Survey) (f : FileSummary) : Survey :=
  f.moduleNames.foldl (fun s name => s.joinModule f name) { s with tags := s.tags ++ f.tags }

/-- A survey after the dependencies that tags of a file declare. -/
def declareTags (s : Survey) (f : FileSummary) : Survey :=
  (f.tagsOf .requires).foldl (fun s t => s.declareDependency f.owner .requires t)
    ((f.tagsOf .dependency).foldl (fun s t => s.declareDependency f.owner .module t) s)

/-- A survey after the dependencies that imports of a file declare. -/
def declareImports (s : Survey) (f : FileSummary) : Survey :=
  match f.moduleName with
  | some name => f.imports.foldl (fun s path => s.declareImport name path) s
  | none => s

theorem mergeFile_eq (s : Survey) (f : FileSummary) :
    s.mergeFile f = ((s.joinFile f).declareTags f).declareImports f := by
  unfold mergeFile joinFile
  rw [f.filterMap_tagsOf_module]
  rfl

theorem names_joinFile (hnames : s.names.Nodup) (f : FileSummary) :
    (s.joinFile f).names = (s.names ++ f.moduleNames).eraseDups :=
  names_foldl_joinModule (s := { s with tags := s.tags ++ f.tags }) hnames f f.moduleNames

theorem modules_mergeFile (hnames : s.names.Nodup) (f : FileSummary) :
    (s.mergeFile f).modules = (s.joinFile f).modules.map fun m =>
      if m.name = f.owner then f.needs.foldl Module.need m else m := by
  have hjoined : (s.joinFile f).names.Nodup := by
    rw [names_joinFile hnames]
    exact nodup_eraseDups _
  have himports : ∀ s' : Survey, (s'.declareImports f).modules = s'.modules := by
    intro s'
    unfold declareImports
    split
    · exact modules_foldl_declareImport _ _ _
    · rfl
  rw [mergeFile_eq, himports, declareTags, modules_foldl_declareDependency,
    modules_foldl_declareDependency hjoined, List.map_map]
  · refine List.map_congr_left fun m _ => ?_
    by_cases hm : m.name = f.owner <;> simp [hm, FileSummary.needs]
  · rwa [names_foldl_declareDependency hjoined]

theorem names_mergeFile (hnames : s.names.Nodup) (f : FileSummary) :
    (s.mergeFile f).names = (s.names ++ f.moduleNames).eraseDups := by
  rw [← names_joinFile hnames, names, names, modules_mergeFile hnames, List.map_map]
  refine List.map_congr_left fun m _ => ?_
  by_cases hm : m.name = f.owner <;> simp [hm]

/-- After a file is merged, each module is one that was there, or is new and named by the file,
with the file merged into it. -/
theorem mem_modules_mergeFile (hnames : s.names.Nodup) {f : FileSummary} {m' : Module}
    (h : m' ∈ (s.mergeFile f).modules) :
    ∃ m, m' = m.merge f ∧ (m ∈ s.modules ∨
      m.name ∈ f.moduleNames ∧ m.name ∉ s.names ∧ m = Module.new m.name f.packageName) := by
  rw [modules_mergeFile hnames] at h
  obtain ⟨m₁, hm₁, rfl⟩ := List.mem_map.mp h
  obtain ⟨m, rfl, hm⟩ :=
    mem_modules_foldl_joinModule (s := { s with tags := s.tags ++ f.tags }) hnames hm₁
  exact ⟨m, by simp only [Module.merge, Module.name_joinOf], hm⟩

/-! ### Edges after a step -/

/-- Keys of dependencies with one more, if it counts and is new. -/
def noteEdge (edges : List Dependency.Key) (e : Dependency.Key) : List Dependency.Key :=
  if Dependency.isProper e.1 e.2.1 then if e ∈ edges then edges else edges ++ [e] else edges

def edges (s : Survey) : List Dependency.Key := s.dependencies.map Dependency.key

theorem edges_addDependency (s : Survey) (d : Dependency) :
    (s.addDependency d).edges = if d.key ∈ s.edges then s.edges else s.edges ++ [d.key] := by
  have hmem : s.hasDependency d = true ↔ d.key ∈ s.edges := by
    simp [hasDependency, edges]
  unfold addDependency
  by_cases h : d.key ∈ s.edges
  · rw [if_pos (hmem.mpr h), if_pos h]
  · rw [if_neg (mt hmem.mp h), if_neg h]
    simp [edges]

theorem edges_declareDependency (s : Survey) (source : String) (kind : DependencyKind) (t : Tag) :
    (s.declareDependency source kind t).edges = noteEdge s.edges (source, t.valueText, kind) := by
  unfold declareDependency noteEdge Dependency.isProper
  dsimp only
  by_cases h : t.valueText = "" ∨ t.valueText = source
  · rw [if_pos (by simpa using h), if_neg (by simpa [imp_iff_not_or] using h)]
  · rw [if_neg (by simpa using h), if_pos (by simpa using h)]
    exact edges_addDependency s ⟨source, t.valueText, kind, some t.line⟩

end Survey

theorem ModulePath.importTarget?_ne_empty {path target : String} {modulePath : Option String}
    (h : importTarget? path modulePath = some target) : target ≠ "" := by
  have hlast : ∀ segments, target? segments = some target → target ≠ "" := by
    intro segments hs
    unfold target? at hs
    split at hs
    · split at hs
      next hc =>
        cases hs
        exact of_decide_eq_true (Bool.and_eq_true_iff.mp hc).2
      next => cases hs
    · cases hs
  unfold importTarget? at h
  dsimp only at h
  split at h
  · exact hlast _ h
  · split at h
    · exact hlast _ h
    · cases h

namespace FileSummary

def tagEdges (f : FileSummary) : List Dependency.Key :=
  (f.tagsOf .dependency).map (fun t : Tag => (f.owner, t.valueText, .module)) ++
    (f.tagsOf .requires).map fun t : Tag => (f.owner, t.valueText, .requires)

/-- The edges that the imports of a file declare, if it has a module. -/
def importEdges (modulePath : Option String) (f : FileSummary) : List Dependency.Key :=
  match f.moduleName with
  | some name => (f.imports.filterMap fun path => ModulePath.importTarget? path modulePath).map
      fun target => (name, target, .import)
  | none => []

end FileSummary

namespace Survey

variable {s : Survey}

theorem edges_declareImport (s : Survey) (source path : String) :
    (s.declareImport source path).edges =
      ((ModulePath.importTarget? path s.modulePath).toList.map fun target =>
        (source, target, DependencyKind.import)).foldl noteEdge s.edges := by
  unfold declareImport
  cases htarget : ModulePath.importTarget? path s.modulePath with
  | none => rfl
  | some target =>
    have hne := ModulePath.importTarget?_ne_empty htarget
    simp only [Option.toList_some, List.map_cons, List.map_nil, List.foldl_cons, List.foldl_nil,
      noteEdge, Dependency.isProper_iff, ne_eq, hne, not_false_eq_true, true_and]
    by_cases h : target = source
    · simp [h]
    · rw [if_neg h, if_pos h]
      exact edges_addDependency s ⟨source, target, .import, none⟩

/-! ### What the steps leave alone -/

theorem foldl_view {β γ : Type} {v : Survey → γ} {step : Survey → β → Survey}
    (h : ∀ s b, v (step s b) = v s) (s : Survey) (items : List β) :
    v (items.foldl step s) = v s := by
  induction items generalizing s with
  | nil => rfl
  | cons b rest ih => rw [List.foldl_cons, ih, h]

def given (s : Survey) : List Tag × Option String := (s.tags, s.modulePath)

theorem joinModule_frame (s : Survey) (f : FileSummary) (name : String) :
    ((s.joinModule f name).edges, (s.joinModule f name).given) = (s.edges, s.given) := by
  unfold joinModule edges given
  by_cases h : s.hasModule name = true <;> simp [h, updateModule]

theorem given_addDependency (s : Survey) (d : Dependency) :
    (s.addDependency d).given = s.given := by
  unfold addDependency
  split <;> rfl

theorem given_declareDependency (s : Survey) (source : String) (kind : DependencyKind) (t : Tag) :
    (s.declareDependency source kind t).given = s.given := by
  unfold declareDependency
  dsimp only
  split
  · rfl
  · exact s.given_addDependency _

theorem given_declareImport (s : Survey) (source path : String) :
    (s.declareImport source path).given = s.given := by
  unfold declareImport
  split
  · split
    · rfl
    · exact s.given_addDependency _
  · rfl

theorem joinFile_frame (s : Survey) (f : FileSummary) :
    ((s.joinFile f).edges, (s.joinFile f).given) = (s.edges, s.tags ++ f.tags, s.modulePath) :=
  foldl_view (v := fun s => (s.edges, s.given)) (fun s name => s.joinModule_frame f name)
    { s with tags := s.tags ++ f.tags } f.moduleNames

theorem given_declareTags (s : Survey) (f : FileSummary) : (s.declareTags f).given = s.given := by
  unfold declareTags
  rw [foldl_view fun s t => s.given_declareDependency f.owner .requires t,
    foldl_view fun s t => s.given_declareDependency f.owner .module t]

theorem given_declareImports (s : Survey) (f : FileSummary) :
    (s.declareImports f).given = s.given := by
  unfold declareImports
  split
  · exact foldl_view (fun s path => s.given_declareImport _ path) s _
  · rfl

theorem given_mergeFile (s : Survey) (f : FileSummary) :
    (s.mergeFile f).given = (s.tags ++ f.tags, s.modulePath) := by
  rw [mergeFile_eq, given_declareImports, given_declareTags]
  exact (Prod.mk.inj (s.joinFile_frame f)).2

/-! ### Edges of a file -/

theorem edges_declareTags (s : Survey) (f : FileSummary) :
    (s.declareTags f).edges = f.tagEdges.foldl noteEdge s.edges := by
  have hfold : ∀ (kind : DependencyKind) (tags : List Tag) (s : Survey),
      (tags.foldl (fun s t => s.declareDependency f.owner kind t) s).edges =
        (tags.map fun t => (f.owner, t.valueText, kind)).foldl noteEdge s.edges := by
    intro kind tags s
    rw [List.foldl_map]
    exact (List.foldl_hom edges fun s t => (s.edges_declareDependency f.owner kind t).symm).symm
  unfold declareTags FileSummary.tagEdges
  rw [hfold, hfold, List.foldl_append]

theorem edges_foldl_declareImport (s : Survey) (source : String) (imports : List String) :
    (imports.foldl (fun s path => s.declareImport source path) s).edges =
      ((imports.filterMap fun path => ModulePath.importTarget? path s.modulePath).map
        fun target => (source, target, DependencyKind.import)).foldl noteEdge s.edges := by
  induction imports generalizing s with
  | nil => rfl
  | cons path rest ih =>
    have hpath : (s.declareImport source path).modulePath = s.modulePath :=
      congrArg Prod.snd (s.given_declareImport source path)
    rw [List.foldl_cons, ih, hpath, edges_declareImport, ← List.foldl_append, ← List.map_append,
      List.filterMap_cons]
    cases ModulePath.importTarget? path s.modulePath <;> rfl

theorem edges_declareImports (s : Survey) (f : FileSummary) :
    (s.declareImports f).edges = (f.importEdges s.modulePath).foldl noteEdge s.edges := by
  unfold declareImports FileSummary.importEdges
  cases f.moduleName with
  | none => rfl
  | some name => exact s.edges_foldl_declareImport name f.imports

theorem edges_mergeFile (s : Survey) (f : FileSummary) :
    (s.mergeFile f).edges =
      (f.tagEdges ++ f.importEdges s.modulePath).foldl noteEdge s.edges := by
  obtain ⟨hedges, hgiven⟩ := Prod.mk.inj (s.joinFile_frame f)
  have hpath : ((s.joinFile f).declareTags f).modulePath = s.modulePath :=
    congrArg Prod.snd ((given_declareTags _ f).trans hgiven)
  rw [mergeFile_eq, edges_declareImports, hpath, edges_declareTags, hedges, List.foldl_append]

end Survey

end TagAtlas
