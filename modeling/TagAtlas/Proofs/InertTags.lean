import TagAtlas.Graph.Basic
import TagAtlas.Insight.Pattern
import TagAtlas.Plan.Basic
import TagAtlas.Proofs.AnnotationLoading
import TagAtlas.Proofs.HeededTags

/-!
# Inert tags change nothing

Tags of no known type that are not about security are counted and listed, but nothing is concluded
from them. Files with and without them give the same modules, dependencies, graphs, patterns, plans
and policies.
-/

namespace TagAtlas

/-! ### Graphs without tags -/

def Node.untagged (n : Node) : Node := { n with tags := [] }

def Module.untagged (m : Module) : Module := { m with tags := [] }

namespace DependencyGraph

def untagged (g : DependencyGraph) : DependencyGraph :=
  { g with nodes := g.nodes.mapValues fun _ n => n.untagged }

variable (g : DependencyGraph)

theorem contains_untagged (id : String) : g.untagged.nodes.contains id = g.nodes.contains id :=
  Dict.contains_mapValues _ _ _

theorem find?_untagged (id : String) :
    g.untagged.nodes.find? id = (g.nodes.find? id).map Node.untagged :=
  Dict.find?_mapValues _ _ _

theorem addNode_untagged (n : Node) : g.untagged.addNode n.untagged = (g.addNode n).untagged := by
  unfold addNode
  rw [show n.untagged.id = n.id from rfl, find?_untagged]
  unfold untagged
  rw [Dict.mapValues_insert]
  cases g.nodes.find? n.id <;> rfl

theorem updateNode_untagged (id : String) {f : Node → Node}
    (hf : ∀ n, (f n).untagged = f n.untagged) :
    g.untagged.updateNode id f = (g.updateNode id f).untagged := by
  unfold updateNode
  rw [find?_untagged]
  cases g.nodes.find? id with
  | none => rfl
  | some n =>
    unfold untagged
    rw [Dict.mapValues_insert, hf]
    rfl

/-- The graph in which an edge counts at both ends. -/
def countEnds (e : Edge) : DependencyGraph :=
  (g.updateNode e.source fun n => { n with outDegree := n.outDegree + 1 }).updateNode e.target
    fun n => { n with inDegree := n.inDegree + 1 }

theorem countEnds_untagged (e : Edge) :
    g.untagged.countEnds e = (g.countEnds e).untagged := by
  unfold countEnds
  rw [updateNode_untagged g e.source (f := fun n => { n with outDegree := n.outDegree + 1 })
      fun n => rfl,
    updateNode_untagged _ e.target (f := fun n => { n with inDegree := n.inDegree + 1 })
      fun n => rfl]

theorem addEdge_untagged (e : Edge) :
    g.untagged.addEdge e = (g.addEdge e).map fun added => (added.1.untagged, added.2) := by
  have hadd : ∀ g : DependencyGraph, g.addEdge e =
      if !g.nodes.contains e.source then .error (.notFound ("graph node " ++ e.source))
      else if !g.nodes.contains e.target then .error (.notFound ("graph node " ++ e.target))
      else if g.hasEdge e then .ok (g, false)
      else .ok ({ g.countEnds e with edges := (g.countEnds e).edges ++ [e] }, true) :=
    fun g => rfl
  rw [hadd, hadd, contains_untagged, contains_untagged, countEnds_untagged,
    show g.untagged.hasEdge e = g.hasEdge e from rfl]
  split
  · rfl
  · split
    · rfl
    · split <;> rfl

theorem ensureNode_untagged (id : String) :
    g.untagged.ensureNode id = (g.ensureNode id).untagged := by
  unfold ensureNode
  rw [contains_untagged]
  split
  · rfl
  · exact g.addNode_untagged (Node.new id .external)

theorem addDependency_untagged (d : Dependency) :
    g.untagged.addDependency d = (g.addDependency d).untagged := by
  unfold addDependency
  dsimp only
  rw [ensureNode_untagged, ensureNode_untagged, addEdge_untagged]
  cases ((g.ensureNode d.source).ensureNode d.target).addEdge (dependencyEdge d) <;> rfl

theorem refresh_untagged : g.untagged.refresh = g.refresh.untagged := by
  have hadjacency : g.untagged.adjacency = g.adjacency := by
    unfold adjacency untagged
    rw [Dict.mapValues_mapValues]
  unfold refresh
  rw [hadjacency]
  rfl

/-- The tags of a module leave a trace in the tags of its node only. -/
theorem moduleNode_untagged (m : Module) : moduleNode m.untagged = (moduleNode m).untagged := by
  have htags : ∀ (tags : List Tag) (n : Node),
      (tags.foldl (fun n t => n.addTag t.type.name) n).untagged = n.untagged := by
    intro tags
    induction tags with
    | nil => exact fun n => rfl
    | cons t tags ih =>
      intro n
      rw [List.foldl_cons, ih]
      unfold Node.addTag
      split <;> rfl
  exact (htags m.tags (moduleNode m.untagged)).symm

/-- Without tags, a graph comes of dependencies and of modules without tags. -/
theorem untagged_ofSurvey (s : Survey) : (ofSurvey s).untagged =
    (s.dependencies.foldl addDependency ((s.modules.map Module.untagged).foldl
      (fun g m => g.addNode (moduleNode m)) empty)).refresh := by
  have hmodules : s.modules.foldl (fun g m => g.addNode (moduleNode m.untagged)) empty.untagged =
      (s.modules.foldl (fun g m => g.addNode (moduleNode m)) empty).untagged :=
    List.foldl_hom untagged fun g m => by rw [moduleNode_untagged, addNode_untagged]
  rw [show empty.untagged = empty from rfl] at hmodules
  unfold ofSurvey
  rw [List.foldl_map, hmodules,
    List.foldl_hom untagged fun g d => addDependency_untagged g d, refresh_untagged]

end DependencyGraph

/-! ### Plans, patterns and policies -/

namespace Survey

variable (s : Survey)

theorem map_untagged_heeded :
    s.heeded.modules.map Module.untagged = s.modules.map Module.untagged := by
  rw [show s.heeded.modules = s.modules.map Module.heeded from rfl, List.map_map]
  rfl

/-- Rules take only names and dependencies of modules from a survey. -/
theorem withSurvey_eq (rules : RuleTable) : rules.withSurvey s =
    (s.modules.map Module.untagged).foldl
      (fun t m => m.dependencies.foldl (fun t d => t.addNeed m.name d) t) rules := by
  unfold RuleTable.withSurvey
  rw [List.foldl_map]
  rfl

theorem tagsOf_heeded {type : TagType} (htype : type.isKnown = true) :
    Pattern.tagsOf s.heeded type = Pattern.tagsOf s type :=
  Tag.filter_heeded (fun _ h => decide_eq_false (Tag.type_ne_of_isInert h htype)) s.tags

theorem namedSymbols_heeded (word : String) :
    Pattern.namedSymbols s.heeded word = Pattern.namedSymbols s word := by
  have hsymbols : s.heeded.files.flatMap FileSummary.symbols =
      s.files.flatMap FileSummary.symbols := List.flatMap_map _ _ s.files
  unfold Pattern.namedSymbols
  rw [hsymbols]

theorem layer?_heeded {type : TagType} (htype : type.isKnown = true) :
    Pattern.layer? s.heeded type = Pattern.layer? s type := by
  unfold Pattern.layer?
  rw [tagsOf_heeded s htype, namedSymbols_heeded]

theorem layered?_heeded : Pattern.layered? s.heeded = Pattern.layered? s := by
  have hknown : ∀ type ∈ Pattern.layers, type.isKnown = true := by decide
  have hall : (Pattern.layers.all fun type => s.heeded.tags.any fun t => t.type = type) =
      Pattern.layers.all fun type => s.tags.any fun t => t.type = type := by
    rw [Bool.eq_iff_iff, List.all_eq_true, List.all_eq_true]
    refine forall₂_congr fun type htype => ?_
    rw [show s.heeded.tags.any _ = _ from Tag.any_heeded
      (fun _ h => decide_eq_false (Tag.type_ne_of_isInert h (hknown type htype))) s.tags]
  have hfilter : s.heeded.tags.filter (fun t => Pattern.layers.contains t.type) =
      s.tags.filter fun t => Pattern.layers.contains t.type := by
    refine Tag.filter_heeded (fun t h => Bool.eq_false_iff.mpr fun hmem => ?_) s.tags
    exact Tag.type_ne_of_isInert h (hknown _ (List.contains_iff_mem.mp hmem)) rfl
  unfold Pattern.layered?
  rw [hall, hfilter]

theorem isServing_heeded (m : Module) : Pattern.isServing m.heeded = Pattern.isServing m := by
  refine Tag.any_heeded (fun t h => ?_) m.tags
  rw [decide_eq_false (Tag.type_ne_of_isInert h rfl), decide_eq_false (Tag.type_ne_of_isInert h rfl),
    decide_eq_false (Tag.type_ne_of_isInert h rfl)]
  rfl

theorem modular?_heeded : Pattern.modular? s.heeded = Pattern.modular? s := by
  have hfilter : s.heeded.modules.filter Pattern.isServing =
      (s.modules.filter Pattern.isServing).map Module.heeded := by
    rw [show s.heeded.modules = s.modules.map Module.heeded from rfl, List.filter_map]
    exact congrArg _ (List.filter_congr fun m _ => isServing_heeded m)
  unfold Pattern.modular?
  rw [hfilter]
  simp only [List.length_map, List.flatMap_map, List.map_map]
  rfl

theorem patterns_heeded : s.heeded.patterns = s.patterns := by
  have hdomain : Pattern.domainDriven? s.heeded = Pattern.domainDriven? s := by
    unfold Pattern.domainDriven?
    rw [tagsOf_heeded s rfl]
  have hinjection : Pattern.injection? s.heeded = Pattern.injection? s := by
    unfold Pattern.injection?
    rw [tagsOf_heeded s rfl, show s.heeded.modules = s.modules.map Module.heeded from rfl,
      List.length_map]
  unfold patterns
  rw [layer?_heeded s rfl, layer?_heeded s rfl, layer?_heeded s rfl, hdomain, hinjection,
    layered?_heeded, modular?_heeded]

theorem ofTag_heeded (t : Tag) : SecurityNote.ofTag s.heeded t = SecurityNote.ofTag s t := by
  have hfile : ∀ path, s.heeded.file? path = (s.file? path).map FileSummary.heeded := by
    intro path
    exact List.find?_map
  have howner : (t.file.bind s.heeded.file?).map FileSummary.owner =
      (t.file.bind s.file?).map FileSummary.owner := by
    cases t.file with
    | none => rfl
    | some path =>
      rw [Option.bind_some, Option.bind_some, hfile, Option.map_map]
      rfl
  unfold SecurityNote.ofTag
  rw [howner]

theorem securityNotes_heeded : s.heeded.securityNotes = s.securityNotes := by
  have hconcerns : ∀ t : Tag, t.isInert = true → SecurityNote.concerns t = false := by
    intro t h
    exact Bool.not_eq_eq_eq_not.mp (Bool.and_eq_true_iff.mp h).2
  unfold securityNotes
  rw [show s.heeded.tags.filter _ = _ from Tag.filter_heeded hconcerns s.tags]
  exact List.map_congr_left fun t _ => ofTag_heeded s t

end Survey

/-! ### Batches at other times -/

def Batch.untimed (b : Batch) : Batch :=
  { b with policies := b.policies.map Policy.untimed, roles := b.roles.map Role.untimed }

namespace Batch

theorem putPolicy_untimed (policies : List Policy) (p : Policy) :
    putPolicy (policies.map Policy.untimed) p.untimed =
      (putPolicy policies p).map Policy.untimed := by
  have hany : (policies.map Policy.untimed).any (·.id = p.untimed.id) =
      policies.any (·.id = p.id) := List.any_map
  unfold putPolicy
  rw [hany]
  split
  · rw [List.map_map, List.map_map]
    refine List.map_congr_left fun q _ => ?_
    rw [Function.comp_apply, Function.comp_apply, apply_ite Policy.untimed]
    rfl
  · rw [List.map_append]
    rfl

/-- The time makes no other difference to a batch. -/
theorem untimed_ofNotes (notes : List SecurityNote) (now later : Time) :
    (ofNotes notes now).untimed = (ofNotes notes later).untimed := by
  have hpolicies : ∀ now, (ofNotes notes now).policies.map Policy.untimed =
      (notes.filterMap fun n => n.policy? 0).foldl putPolicy [] := by
    intro now
    have hpolicy : ∀ n : SecurityNote, (n.policy? now).map Policy.untimed = n.policy? 0 := by
      intro n
      unfold SecurityNote.policy?
      split <;> rfl
    have hfold : ∀ placed found : List Policy,
        (found.map Policy.untimed).foldl putPolicy (placed.map Policy.untimed) =
          (found.foldl putPolicy placed).map Policy.untimed := by
      intro placed found
      rw [List.foldl_map]
      exact List.foldl_hom (List.map Policy.untimed) fun qs q => putPolicy_untimed qs q
    have hfound : (notes.filterMap fun n => n.policy? now).map Policy.untimed =
        notes.filterMap fun n => n.policy? 0 := by
      rw [List.map_filterMap]
      exact List.filterMap_congr fun n _ => hpolicy n
    rw [← hfound]
    exact (hfold [] _).symm
  have hroles : ∀ now, (ofNotes notes now).roles.map Role.untimed =
      ((ofNotes notes 0).roles.map Role.id).map Role.standard := by
    intro now
    rw [untimed_roles, ids_roles, ids_roles]
  unfold untimed
  rw [hpolicies, hpolicies, hroles, hroles]
  rfl

end Batch

/-! ### Files with and without inert tags -/

inductive Tag.Inserted : List Tag → List Tag → Prop
  | nil : Inserted [] []
  | keep (t : Tag) {l m : List Tag} (h : Inserted l m) : Inserted (t :: l) (t :: m)
  | insert {t : Tag} {l m : List Tag} (hinert : t.isInert = true) (h : Inserted l m) :
      Inserted l (t :: m)

/-- A file in which inert tags are put in. -/
structure FileSummary.Padded (f padded : FileSummary) : Prop where
  tags : Tag.Inserted f.tags padded.tags
  others : { padded with tags := f.tags } = f

theorem Tag.Inserted.heeded_eq {l m : List Tag} (h : Inserted l m) : heeded m = heeded l := by
  induction h with
  | nil => rfl
  | keep t h ih =>
    unfold heeded at ih ⊢
    rw [List.filter_cons, List.filter_cons, ih]
  | insert hinert h ih =>
    unfold heeded at ih ⊢
    rw [List.filter_cons_of_neg (by simp [hinert]), ih]

theorem FileSummary.Padded.heeded_eq {f padded : FileSummary} (h : Padded f padded) :
    padded.heeded = f.heeded := by
  have hothers := congrArg FileSummary.heeded h.others
  unfold heeded at hothers ⊢
  rw [h.tags.heeded_eq]
  exact hothers

/-- Two surveys from which the same is concluded. -/
structure Survey.ConcludesAs (a b : Survey) : Prop where
  warnings : b.warnings = a.warnings
  modules : b.modules.map Module.untagged = a.modules.map Module.untagged
  dependencies : b.dependencies = a.dependencies
  graph : (DependencyGraph.ofSurvey b).untagged = (DependencyGraph.ofSurvey a).untagged
  patterns : b.patterns = a.patterns
  plans : ∀ (rules : RuleTable) (names : List String),
    Plan.resolve (rules.withSurvey b) names = Plan.resolve (rules.withSurvey a) names
  batches : ∀ now later, (Batch.ofSurvey b later).untimed = (Batch.ofSurvey a now).untimed

namespace Survey

/-- Surveys with the same heeded tags conclude the same. -/
theorem concludesAs_of_heeded_eq {a b : Survey} (h : b.heeded = a.heeded) : a.ConcludesAs b := by
  have hmodules : b.modules.map Module.untagged = a.modules.map Module.untagged := by
    rw [← map_untagged_heeded, h, map_untagged_heeded]
  have hdependencies : b.heeded.dependencies = a.heeded.dependencies := by rw [h]
  have hwarnings : b.heeded.warnings = a.heeded.warnings := by rw [h]
  constructor
  · exact hwarnings
  · exact hmodules
  · exact hdependencies
  · rw [DependencyGraph.untagged_ofSurvey, DependencyGraph.untagged_ofSurvey, hmodules,
      show b.dependencies = a.dependencies from hdependencies]
  · rw [← patterns_heeded, h, patterns_heeded]
  · intro rules names
    rw [withSurvey_eq, withSurvey_eq, hmodules]
  · intro now later
    rw [Batch.ofSurvey, Batch.ofSurvey, Batch.untimed_ofNotes _ later now, ← securityNotes_heeded,
      h, securityNotes_heeded]

/-- Nothing is concluded from inert tags. -/
theorem concludesAs_of_padded (start : Survey) {files padded : List FileSummary}
    (h : List.Forall₂ FileSummary.Padded files padded) :
    (ofFiles start files).ConcludesAs (ofFiles start padded) := by
  have hheeded : padded.map FileSummary.heeded = files.map FileSummary.heeded := by
    induction h with
    | nil => rfl
    | cons hfile h ih => rw [List.map_cons, List.map_cons, hfile.heeded_eq, ih]
  apply concludesAs_of_heeded_eq
  rw [← ofFiles_heeded, ← ofFiles_heeded, hheeded]

/-- A feature flag before and after the module tag of a file. -/
theorem concludesAs_of_padded_feature_flag :
    let name : Tag :=
      ⟨.module, some "flags", .empty, 2, "@kthulu:module:flags", none, some "flags.go"⟩
    let flag : Tag :=
      ⟨⟨"feature_flag"⟩, some "beta", .empty, 1, "@kthulu:feature_flag:beta", none, some "flags.go"⟩
    let file : FileSummary := ⟨"flags.go", "flags", some "flags", [], [name], [], 4, 80⟩
    let padded : FileSummary := { file with tags := [flag, name, flag] }
    let start := Survey.new "proj" (Stamp.ofNanoseconds 0)
    FileSummary.Padded file padded ∧ (ofFiles start [file]).ConcludesAs (ofFiles start [padded]) := by
  intro name flag file padded start
  have hflag : flag.isInert = true := by decide +kernel
  have hpadded : FileSummary.Padded file padded :=
    ⟨.insert hflag (.keep name (.insert hflag .nil)), rfl⟩
  exact ⟨hpadded, concludesAs_of_padded start (.cons hpadded .nil)⟩

end Survey

end TagAtlas
