import Mathlib.Data.List.TakeWhile
import TagAtlas.Proofs.SurveyMergeSteps

/-!
# What merging files gives

Each module is made by the first file that names it and by the files after that one. Where paths
are distinct it holds just the files that name it, in their order, and the dependencies of the
survey are just the edges that files declare, each once. The dependencies that a module lists are
those that its files declare from the first file on that names it: what a file of its package has
declared before is an edge of the survey, but is not listed by the module.
-/

namespace TagAtlas

/-! ### Modules apart from each other -/

namespace Module

theorem dependencies_need (m : Module) {name : String} (hne : name ≠ m.name) :
    (m.need name).dependencies =
      if name ∈ m.dependencies then m.dependencies else m.dependencies ++ [name] := by
  by_cases h : name ∈ m.dependencies <;> simp [need, addDependency?, hne, h]

theorem dependencies_foldl_need {m : Module} (hm : m.dependencies.Nodup) {names : List String}
    (hne : ∀ name ∈ names, name ≠ m.name) :
    (names.foldl need m).dependencies = (m.dependencies ++ names).eraseDups := by
  induction names using List.reverseRecOn with
  | nil => simp [eraseDups_of_nodup hm]
  | append_singleton names name ih =>
    have hlast : name ≠ (names.foldl need m).name := by
      rw [name_foldl_need]
      exact hne name (by simp)
    have hnames := ih fun n hn => hne n (List.mem_append_left _ hn)
    rw [List.foldl_append, List.foldl_cons, List.foldl_nil, dependencies_need _ hlast, hnames,
      ← List.append_assoc, eraseDups_concat]
    simp only [List.mem_eraseDups]

def contents (m : Module) : String × List String × List Tag := (m.packageName, m.files, m.tags)

theorem contents_foldl_need (m : Module) (names : List String) :
    (names.foldl need m).contents = m.contents := by
  have hneed : ∀ (m : Module) (name : String), (m.need name).contents = m.contents := by
    intro m name
    unfold need addDependency?
    split <;> rfl
  induction names generalizing m with
  | nil => rfl
  | cons name rest ih => rw [List.foldl_cons, ih, hneed]

theorem contents_merge {m : Module} {f : FileSummary} (hfresh : f.path ∉ m.files) :
    (m.merge f).contents = if f.names m.name then
      (m.packageName, m.files ++ [f.path], m.tags ++ f.tags) else m.contents := by
  have hjoined : (m.merge f).contents = (m.joinOf f.moduleNames f).contents := by
    unfold merge
    split
    · rw [contents_foldl_need]
    · rfl
  rw [hjoined]
  by_cases h : m.name ∈ f.moduleNames <;>
    simp [joinOf, FileSummary.names, contents, join, addFile?, h, hfresh]

theorem dependencies_join (m : Module) (f : FileSummary) :
    (m.join f).dependencies = m.dependencies := by
  by_cases h : f.path ∈ m.files <;> simp [join, addFile?, h]

theorem dependencies_merge {m : Module} (hm : m.dependencies.Nodup) (f : FileSummary) :
    (m.merge f).dependencies =
      if f.owner = m.name then (m.dependencies ++ f.needs).eraseDups else m.dependencies := by
  have hjoined : (m.joinOf f.moduleNames f).dependencies = m.dependencies := by
    unfold joinOf
    split
    · exact m.dependencies_join f
    · rfl
  unfold merge
  by_cases h : m.name = f.owner
  · have hne : ∀ name ∈ f.needs, name ≠ (m.joinOf f.moduleNames f).name := by
      intro name hname
      rw [name_joinOf, h]
      exact (Dependency.isProper_iff.mp (List.mem_filter.mp hname).2).2
    rw [if_pos h, if_pos h.symm, dependencies_foldl_need (hjoined ▸ hm) hne, hjoined]
  · rw [if_neg h, if_neg (Ne.symm h), hjoined]

theorem name_foldl_merge (m : Module) (files : List FileSummary) :
    (files.foldl merge m).name = m.name := by
  induction files generalizing m with
  | nil => rfl
  | cons f rest ih => rw [List.foldl_cons, ih, name_merge]

theorem contents_foldl_merge (name package : String) {files : List FileSummary}
    (hpaths : (files.map FileSummary.path).Nodup) :
    (files.foldl merge (Module.new name package)).contents =
      (package, (files.filter (·.names name)).map FileSummary.path,
        (files.filter (·.names name)).flatMap FileSummary.tags) := by
  induction files using List.reverseRecOn with
  | nil => rfl
  | append_singleton files f ih =>
    rw [List.map_append, List.map_singleton, ← List.concat_eq_append, List.nodup_concat] at hpaths
    obtain ⟨hf, hfiles⟩ := hpaths
    have hm := ih hfiles
    have hname : (files.foldl merge (Module.new name package)).name = name :=
      name_foldl_merge _ files
    obtain ⟨hpackage, hpair⟩ := Prod.mk.inj hm
    obtain ⟨hlisted, htags⟩ := Prod.mk.inj hpair
    have hfresh : f.path ∉ (files.foldl merge (Module.new name package)).files := by
      rw [hlisted]
      exact fun h => hf ((List.filter_sublist.map _).subset h)
    rw [List.foldl_append, List.foldl_cons, List.foldl_nil, contents_merge hfresh, hname, hm,
      hpackage, hlisted, htags, List.filter_append]
    by_cases h : f.names name = true <;> simp [h]

theorem dependencies_foldl_merge (name package : String) (files : List FileSummary) :
    (files.foldl merge (Module.new name package)).dependencies =
      ((files.filter (·.owner = name)).flatMap FileSummary.needs).eraseDups := by
  induction files using List.reverseRecOn with
  | nil => rfl
  | append_singleton files f ih =>
    have hname : (files.foldl merge (Module.new name package)).name = name :=
      name_foldl_merge _ files
    have hnodup := nodup_eraseDups ((files.filter (·.owner = name)).flatMap FileSummary.needs)
    rw [← ih] at hnodup
    rw [List.foldl_append, List.foldl_cons, List.foldl_nil, dependencies_merge hnodup, hname, ih,
      List.filter_append]
    by_cases h : f.owner = name
    · simp [h, eraseDups_eraseDups_append]
    · simp [h]

end Module

namespace Survey

/-! ### Runs over files -/

/-- What is known of a survey after some files have been merged. -/
structure Merged (start : Survey) (files : List FileSummary) (s : Survey) : Prop where
  given : s.given = (files.flatMap FileSummary.tags, start.modulePath)
  names : s.names = (files.flatMap FileSummary.moduleNames).eraseDups
  edges : s.edges = (files.flatMap fun f =>
    f.tagEdges ++ f.importEdges start.modulePath).foldl noteEdge []
  built : ∀ m ∈ s.modules, ∃ f rest, files.dropWhile (fun f => !f.names m.name) = f :: rest ∧
    m = (f :: rest).foldl Module.merge (Module.new m.name f.packageName)

theorem Merged.start {start : Survey} (h : start.isEmpty = true) : Merged start [] start := by
  obtain ⟨hlists, htags⟩ := Bool.and_eq_true_iff.mp h
  obtain ⟨hmodules, hdeps⟩ := Bool.and_eq_true_iff.mp hlists
  rw [List.isEmpty_iff] at htags hmodules hdeps
  constructor
  · simp [Survey.given, htags]
  · simp [Survey.names, hmodules]
  · simp [Survey.edges, hdeps]
  · simp [hmodules]

theorem Merged.mergeFile {start s : Survey} {files : List FileSummary} (h : Merged start files s)
    (f : FileSummary) : Merged start (files ++ [f]) (s.mergeFile f) := by
  have hnames : s.names.Nodup := h.names ▸ nodup_eraseDups _
  obtain ⟨htags, hpath⟩ := Prod.mk.inj h.given
  constructor
  · rw [given_mergeFile, htags, hpath]
    simp
  · rw [names_mergeFile hnames, h.names, eraseDups_eraseDups_append]
    simp
  · rw [edges_mergeFile, h.edges, hpath, ← List.foldl_append]
    simp
  · intro m' hm'
    obtain ⟨m, rfl, hm⟩ := mem_modules_mergeFile hnames hm'
    rw [m.name_merge, List.dropWhile_append]
    rcases hm with hm | ⟨hnamed, hnew, hm⟩
    · obtain ⟨g, rest, hdrop, hbuilt⟩ := h.built m hm
      refine ⟨g, rest ++ [f], by simp [hdrop], ?_⟩
      rw [← List.cons_append, List.foldl_append, ← hbuilt]
      rfl
    · have hnone : files.dropWhile (fun f => !f.names m.name) = [] := by
        rw [List.dropWhile_eq_nil_iff]
        intro g hg
        rw [h.names, List.mem_eraseDups] at hnew
        simpa [FileSummary.names] using fun hn => hnew (List.mem_flatMap.mpr ⟨g, hg, hn⟩)
      have hfirst : f.names m.name = true := List.contains_iff_mem.mpr hnamed
      refine ⟨f, [], by simp [hnone, hfirst], ?_⟩
      rw [List.foldl_cons, List.foldl_nil, ← hm]

theorem merged_foldl {start : Survey} (h : start.isEmpty = true) (files : List FileSummary) :
    Merged start files (files.foldl Survey.mergeFile start) := by
  induction files using List.reverseRecOn with
  | nil => exact .start h
  | append_singleton files f ih =>
    rw [List.foldl_append]
    exact ih.mergeFile f

theorem merged_ofFiles {start : Survey} (h : start.isEmpty = true) (files : List FileSummary) :
    Merged start files (ofFiles start files) :=
  ⟨(merged_foldl h files).given, (merged_foldl h files).names, (merged_foldl h files).edges,
    (merged_foldl h files).built⟩

theorem foldl_noteEdge (edges : List Dependency.Key) :
    edges.foldl noteEdge [] =
      (edges.filter fun e => Dependency.isProper e.1 e.2.1).eraseDups := by
  let collect (edges : List Dependency.Key) (e : Dependency.Key) : List Dependency.Key :=
    if e ∈ edges then edges else edges ++ [e]
  have hstep : ∀ edges e, collect edges e = if e ∈ edges then edges else edges ++ [e] :=
    fun _ _ => rfl
  have h := collected_foldl (v := fun edges => edges) (k := fun e => e) hstep List.nodup_nil
    (edges.filter fun e => Dependency.isProper e.1 e.2.1)
  rw [List.foldl_filter, List.map_id'] at h
  exact h

namespace Merged

variable {start s : Survey} {files : List FileSummary} {m : Module}

theorem edges_nodup (h : Merged start files s) : s.edges.Nodup := by
  rw [h.edges, foldl_noteEdge]
  exact nodup_eraseDups _

theorem mem_edges_iff (h : Merged start files s) {e : Dependency.Key} :
    e ∈ s.edges ↔ Dependency.isProper e.1 e.2.1 = true ∧
      ∃ f ∈ files, e ∈ f.tagEdges ∨ e ∈ f.importEdges start.modulePath := by
  rw [h.edges, foldl_noteEdge, List.mem_eraseDups, List.mem_filter, List.mem_flatMap, and_comm]
  simp only [List.mem_append]

/-- The files that a module holds are those that name it. -/
theorem contents_eq (h : Merged start files s) (hpaths : (files.map FileSummary.path).Nodup)
    (hm : m ∈ s.modules) :
    (files.filter (·.names m.name)).head?.map FileSummary.packageName = some m.packageName ∧
      m.files = (files.filter (·.names m.name)).map FileSummary.path ∧
      m.tags = (files.filter (·.names m.name)).flatMap FileSummary.tags := by
  obtain ⟨f, rest, hdrop, hbuilt⟩ := h.built m hm
  have hsplit := List.takeWhile_append_dropWhile (p := fun f => !f.names m.name) (l := files)
  have hbefore : (files.takeWhile fun f => !f.names m.name).filter (·.names m.name) = [] := by
    rw [List.filter_eq_nil_iff]
    intro g hg
    simpa using List.mem_takeWhile_imp hg
  have hfilter : files.filter (·.names m.name) = (f :: rest).filter (·.names m.name) := by
    rw [← hsplit, List.filter_append, hbefore, hdrop, List.nil_append]
  have hfirst : f.names m.name = true := by
    have hhead := List.head?_dropWhile_not (fun f : FileSummary => !f.names m.name) files
    rw [hdrop] at hhead
    simpa using hhead
  have hlater : ((f :: rest).map FileSummary.path).Nodup := by
    refine hpaths.sublist (List.Sublist.map _ ?_)
    rw [← hdrop]
    exact List.dropWhile_sublist _
  have hcontents := Module.contents_foldl_merge m.name f.packageName hlater
  rw [← hbuilt] at hcontents
  obtain ⟨hpackage, hpair⟩ := Prod.mk.inj hcontents
  obtain ⟨hlisted, htags⟩ := Prod.mk.inj hpair
  rw [hfilter]
  refine ⟨?_, hlisted, htags⟩
  rw [hpackage, List.filter_cons, if_pos hfirst]
  rfl

end Merged

end Survey

/-! ### What files declare -/

/-- The file declares the edge: by a tag that names the target for the owner of the file, or by one
of its imports, which leads from the module of the file to the target. -/
def FileSummary.Declares (modulePath : Option String) (f : FileSummary) (source target : String) :
    DependencyKind → Prop
  | .module => f.owner = source ∧ ∃ t ∈ f.tags, t.type = .dependency ∧ t.value = some target
  | .requires => f.owner = source ∧ ∃ t ∈ f.tags, t.type = .requires ∧ t.value = some target
  | .import => f.moduleName = some source ∧
      ∃ path ∈ f.imports, ModulePath.importTarget? path modulePath = some target

theorem Tag.valueText_eq_iff {t : Tag} {text : String} (h : text ≠ "") :
    t.valueText = text ↔ t.value = some text := by
  unfold valueText
  cases t.value <;> simp [h.symm]

namespace FileSummary

variable {f : FileSummary} {modulePath : Option String} {source target : String}
  {kind : DependencyKind}

theorem exists_tagsOf_iff {type : TagType} (h : target ≠ "") :
    (∃ t ∈ f.tagsOf type, t.valueText = target) ↔
      ∃ t ∈ f.tags, t.type = type ∧ t.value = some target := by
  simp only [tagsOf, List.mem_filter, decide_eq_true_eq, and_assoc, Tag.valueText_eq_iff h]

/-- An edge that counts is among those of a file just when the file declares it. -/
theorem mem_edges_iff (h : target ≠ "") :
    (source, target, kind) ∈ f.tagEdges ∨ (source, target, kind) ∈ f.importEdges modulePath ↔
      f.Declares modulePath source target kind := by
  have himport : (source, target, kind) ∈ f.importEdges modulePath ↔
      kind = .import ∧ f.moduleName = some source ∧
        ∃ path ∈ f.imports, ModulePath.importTarget? path modulePath = some target := by
    unfold importEdges
    cases f.moduleName with
    | none => simp
    | some name =>
      simp only [List.mem_map, List.mem_filterMap, Prod.mk.injEq, Option.some.injEq]
      constructor
      · rintro ⟨_, ⟨path, hpath, hp⟩, rfl, rfl, rfl⟩
        exact ⟨rfl, rfl, path, hpath, hp⟩
      · rintro ⟨rfl, rfl, path, hpath, hp⟩
        exact ⟨target, ⟨path, hpath, hp⟩, rfl, rfl, rfl⟩
  have htag : ∀ (type : TagType) (k : DependencyKind),
      (source, target, kind) ∈ (f.tagsOf type).map (fun t => (f.owner, t.valueText, k)) ↔
        kind = k ∧ f.owner = source ∧ ∃ t ∈ f.tags, t.type = type ∧ t.value = some target := by
    intro type k
    rw [← exists_tagsOf_iff h]
    simp only [List.mem_map, Prod.mk.injEq]
    constructor
    · rintro ⟨t, ht, hsource, htarget, rfl⟩
      exact ⟨rfl, hsource, t, ht, htarget⟩
    · rintro ⟨rfl, hsource, t, ht, htarget⟩
      exact ⟨t, ht, hsource, htarget, rfl⟩
  unfold tagEdges
  rw [himport, List.mem_append, htag, htag]
  cases kind <;> simp [Declares]

/-- What a file needs is what its tags declare as edges of its owner. -/
theorem mem_needs_iff (modulePath : Option String) :
    f.owner = source ∧ target ∈ f.needs ↔ Dependency.isProper source target = true ∧
      (f.Declares modulePath source target .module ∨
        f.Declares modulePath source target .requires) := by
  have hneeds : target ∈ f.needs ↔ Dependency.isProper f.owner target = true ∧
      ((∃ t ∈ f.tagsOf .dependency, t.valueText = target) ∨
        ∃ t ∈ f.tagsOf .requires, t.valueText = target) := by
    rw [needs, List.mem_filter, List.map_append, List.mem_append, List.mem_map, List.mem_map,
      and_comm]
  rw [hneeds]
  constructor
  · rintro ⟨rfl, hproper, hdeclared⟩
    have hne := (Dependency.isProper_iff.mp hproper).1
    rw [exists_tagsOf_iff hne, exists_tagsOf_iff hne] at hdeclared
    exact ⟨hproper, hdeclared.imp (.intro rfl) (.intro rfl)⟩
  · rintro ⟨hproper, hdeclared⟩
    have hne := (Dependency.isProper_iff.mp hproper).1
    have howner : f.owner = source := hdeclared.elim And.left And.left
    refine ⟨howner, howner ▸ hproper, ?_⟩
    rw [exists_tagsOf_iff hne, exists_tagsOf_iff hne]
    exact hdeclared.imp And.right And.right

end FileSummary

namespace Survey

variable {start s : Survey} {files : List FileSummary}

/-- Nothing of the files is lost, and nothing is there twice. -/
structure IsMerge (start : Survey) (files : List FileSummary) (s : Survey) : Prop where
  tags : s.tags = files.flatMap FileSummary.tags
  /-- One module for each name, in the order in which the names occur first. -/
  moduleNames : s.modules.map Module.name = (files.flatMap FileSummary.moduleNames).eraseDups
  package : ∀ m ∈ s.modules,
    (files.filter (·.names m.name)).head?.map FileSummary.packageName = some m.packageName
  moduleFiles : ∀ m ∈ s.modules,
    m.files = (files.filter (·.names m.name)).map FileSummary.path ∧ m.files.Nodup
  moduleTags : ∀ m ∈ s.modules, m.tags = (files.filter (·.names m.name)).flatMap FileSummary.tags
  edgesOnce : (s.dependencies.map Dependency.key).Nodup
  edges : ∀ source target kind, (source, target, kind) ∈ s.dependencies.map Dependency.key ↔
    target ≠ "" ∧ target ≠ source ∧
      ∃ f ∈ files, f.Declares start.modulePath source target kind

theorem isMerge_ofFiles (hstart : start.isEmpty = true)
    (hpaths : (files.map FileSummary.path).Nodup) : IsMerge start files (ofFiles start files) := by
  have h := merged_ofFiles hstart files
  constructor
  · exact congrArg Prod.fst h.given
  · exact h.names
  · exact fun m hm => (h.contents_eq hpaths hm).1
  · intro m hm
    have hfiles := (h.contents_eq hpaths hm).2.1
    refine ⟨hfiles, ?_⟩
    rw [hfiles]
    exact hpaths.sublist (List.filter_sublist.map _)
  · exact fun m hm => (h.contents_eq hpaths hm).2.2
  · exact h.edges_nodup
  · intro source target kind
    have hedge := h.mem_edges_iff (e := (source, target, kind))
    rw [Dependency.isProper_iff, and_assoc] at hedge
    rw [← edges, hedge]
    refine and_congr_right fun hne => and_congr_right fun _ => exists_congr fun f => ?_
    rw [f.mem_edges_iff hne]

/-- Files name several modules, one twice, or none; edges are declared twice, of a module itself,
and by an import. -/
theorem isMerge_ofFiles_shared_modules :
    let tag (type : TagType) (value : String) (line : Nat) : Tag :=
      ⟨type, some value, .empty, line, "", none, none⟩
    let start : Survey :=
      { Survey.new "proj" (Stamp.ofNanoseconds 0) with modulePath := some "acme.dev/shop" }
    let files : List FileSummary :=
      [⟨"a.go", "shop", some "user", ["acme.dev/shop/modules/core", "acme.dev/shop/modules/user"],
        [tag .module "user" 1, tag .module "order" 2, tag .module "user" 3,
          tag .dependency "core" 4, tag .dependency "user" 5], [], 9, 90⟩,
      ⟨"b.go", "order", none, ["acme.dev/shop/modules/core"],
        [tag .requires "core" 1], [], 4, 40⟩,
      ⟨"c.go", "stock", some "order", [],
        [tag .module "order" 1, tag .requires "core" 2], [], 7, 70⟩]
    start.isEmpty = true ∧ (files.map FileSummary.path).Nodup ∧
      IsMerge start files (ofFiles start files) :=
  ⟨rfl, by decide, isMerge_ofFiles rfl (by decide)⟩

/-! ### The two records of declared dependencies -/

/-- The survey has an edge from the module to the name that a tag declares. -/
def Requires (s : Survey) (m : Module) (name : String) : Prop :=
  ∃ d ∈ s.dependencies,
    d.source = m.name ∧ d.target = name ∧ (d.kind = .module ∨ d.kind = .requires)

theorem Merged.requires_iff (h : Merged start files s) {m : Module} {name : String} :
    s.Requires m name ↔ ∃ f ∈ files, f.owner = m.name ∧ name ∈ f.needs := by
  have hkey : ∀ kind, (∃ d ∈ s.dependencies, d.source = m.name ∧ d.target = name ∧ d.kind = kind) ↔
      Dependency.isProper m.name name = true ∧
        ∃ f ∈ files, f.Declares start.modulePath m.name name kind := by
    intro kind
    have hmem := h.mem_edges_iff (e := (m.name, name, kind))
    simp only [Survey.edges, Dependency.key, List.mem_map, Prod.mk.injEq] at hmem
    rw [hmem]
    refine and_congr_right fun hproper => exists_congr fun f => ?_
    rw [f.mem_edges_iff (Dependency.isProper_iff.mp hproper).1]
  have hneeds : ∀ f : FileSummary, f.owner = m.name ∧ name ∈ f.needs ↔ _ :=
    fun f => f.mem_needs_iff start.modulePath
  simp only [Requires, and_or_left, exists_or, hkey, hneeds]
  constructor
  · rintro (⟨hproper, f, hf, hdeclares⟩ | ⟨hproper, f, hf, hdeclares⟩)
    · exact .inl ⟨f, hf, hproper, hdeclares⟩
    · exact .inr ⟨f, hf, hproper, hdeclares⟩
  · rintro (⟨f, hf, hproper, hdeclares⟩ | ⟨f, hf, hproper, hdeclares⟩)
    · exact .inl ⟨hproper, f, hf, hdeclares⟩
    · exact .inr ⟨hproper, f, hf, hdeclares⟩

theorem Merged.mem_dependencies_iff (h : Merged start files s) {m : Module} (hm : m ∈ s.modules)
    {name : String} : name ∈ m.dependencies ↔
      ∃ f ∈ files.dropWhile (fun f => !f.names m.name), f.owner = m.name ∧ name ∈ f.needs := by
  obtain ⟨f, rest, hdrop, hbuilt⟩ := h.built m hm
  have hdependencies := Module.dependencies_foldl_merge m.name f.packageName (f :: rest)
  rw [← hbuilt] at hdependencies
  rw [hdrop, hdependencies]
  simp [and_assoc]

/-- A module lists only names that the survey has as its dependencies. It lists all of them just
when what its files declare before the first one that names it is declared by a later one, too. -/
theorem dependencies_complete_iff (hstart : start.isEmpty = true) {m : Module}
    (hm : m ∈ (ofFiles start files).modules) :
    (∀ name ∈ m.dependencies, (ofFiles start files).Requires m name) ∧
      ((∀ name, (ofFiles start files).Requires m name → name ∈ m.dependencies) ↔
        ∀ f ∈ files.takeWhile (fun f => !f.names m.name), f.owner = m.name → ∀ name ∈ f.needs,
          ∃ g ∈ files.dropWhile (fun f => !f.names m.name), g.owner = m.name ∧ name ∈ g.needs) := by
  have h := merged_ofFiles hstart files
  simp only [h.requires_iff, h.mem_dependencies_iff hm]
  have hsplit := List.takeWhile_append_dropWhile (p := fun f => !f.names m.name) (l := files)
  constructor
  · rintro name ⟨f, hf, howner, hneed⟩
    exact ⟨f, (List.dropWhile_sublist _).subset hf, howner, hneed⟩
  constructor
  · intro hall f hf howner name hneed
    exact hall name ⟨f, (List.takeWhile_sublist _).subset hf, howner, hneed⟩
  · rintro hearlier name ⟨f, hf, howner, hneed⟩
    rw [← hsplit, List.mem_append] at hf
    rcases hf with hf | hf
    · exact hearlier f hf howner name hneed
    · exact ⟨f, hf, howner, hneed⟩

/-- A file of a package needs a module before the package is named as a module. -/
theorem dependencies_incomplete_of_late_name :
    let start := Survey.new "proj" (Stamp.ofNanoseconds 0)
    let core : Tag :=
      ⟨.dependency, some "core", .empty, 1, "@kthulu:dependency:core", none, some "a.go"⟩
    let user : Tag := ⟨.module, some "user", .empty, 1, "@kthulu:module:user", none, some "b.go"⟩
    let files : List FileSummary :=
      [⟨"a.go", "user", none, [], [core], [], 2, 40⟩,
      ⟨"b.go", "user", some "user", [], [user], [], 2, 36⟩]
    let m : Module := ⟨"user", "user", ["b.go"], [], [user]⟩
    start.isEmpty = true ∧ m ∈ (ofFiles start files).modules ∧
      (ofFiles start files).Requires m "core" ∧
      ¬∀ name, (ofFiles start files).Requires m name → name ∈ m.dependencies := by
  intro start core user files m
  have hempty : start.isEmpty = true := rfl
  have hm : m ∈ (ofFiles start files).modules := by decide
  have hneeds : (ofFiles start files).Requires m "core" :=
    ⟨⟨"user", "core", .module, some 1⟩, by decide, rfl, rfl, .inl rfl⟩
  refine ⟨hempty, hm, hneeds, fun hall => ?_⟩
  have hlater := (dependencies_complete_iff hempty hm).2.mp hall
    ⟨"a.go", "user", none, [], [core], [], 2, 40⟩ (by decide) rfl "core" (by decide)
  revert hlater
  decide

end Survey

end TagAtlas
