import Mathlib
import TagAtlas.Graph.Document
import TagAtlas.Proofs.DictContents

/-!
# What a dependency graph counts

Every node stands under its own id, every edge joins two nodes, no two edges have one key, and a
node counts the edges at its ends. A graph keeps this however it comes about. So nodes with their
counts, and what a refresh computes, depend on the set of edges only and not on their order.
-/

namespace TagAtlas

namespace Node

def uncounted (n : Node) : Node := { n with inDegree := 0, outDegree := 0 }

/-- The node of an id after one more edge is counted. -/
def counting (n : Node) (id : String) (e : Edge) : Node :=
  { n with
    inDegree := n.inDegree + if e.target = id then 1 else 0
    outDegree := n.outDegree + if e.source = id then 1 else 0 }

theorem uncounted_foldl_addTag (tags : List Tag) (n : Node) :
    (tags.foldl (fun n t => n.addTag t.type.name) n).uncounted =
      tags.foldl (fun n t => n.addTag t.type.name) n.uncounted := by
  induction tags generalizing n with
  | nil => rfl
  | cons t tags ih =>
    have htag : (n.addTag t.type.name).uncounted = n.uncounted.addTag t.type.name := by
      unfold addTag
      by_cases h : n.tags.contains t.type.name = true
      · rw [if_pos h, if_pos (show n.uncounted.tags.contains _ = true from h)]
      · rw [if_neg h, if_neg (show ¬ n.uncounted.tags.contains _ = true from h)]
        rfl
    rw [List.foldl_cons, ih, htag, List.foldl_cons]

end Node

namespace DependencyGraph

variable {g d : DependencyGraph} {e : Edge} {n : Node} {added : Bool} {nodes : List Node}
  {es : List Edge} {k id : String}

def bareNodes (g : DependencyGraph) : Dict Node := g.nodes.mapValues fun _ n => n.uncounted

/-- How a graph comes about: from nothing, a survey or a text, by nodes without counts, by edges
that are not refused, and by refreshes. -/
inductive Built : DependencyGraph → Prop
  | empty : Built .empty
  | ofSurvey (s : Survey) : Built (ofSurvey s)
  | ofText {text : String} {g : DependencyGraph} (h : ofText text = .ok g) : Built g
  | addNode {g : DependencyGraph} (n : Node) (hn : n.uncounted = n) (h : Built g) :
      Built (g.addNode n)
  | addEdge {g d : DependencyGraph} {e : Edge} {added : Bool} (h : Built g)
      (hadd : g.addEdge e = .ok (d, added)) : Built d
  | refresh {g : DependencyGraph} (h : Built g) : Built g.refresh

structure Counted (g : DependencyGraph) : Prop where
  ownId : ∀ id n, g.nodes.find? id = some n → n.id = id
  ends : ∀ e ∈ g.edges, g.nodes.contains e.source = true ∧ g.nodes.contains e.target = true
  keys : (g.edges.map Edge.key).Nodup
  inDegree : ∀ id n, g.nodes.find? id = some n → n.inDegree = g.edges.countP (·.target = id)
  outDegree : ∀ id n, g.nodes.find? id = some n → n.outDegree = g.edges.countP (·.source = id)

/-! ### What a step does -/

theorem bareNodes_addNode (g : DependencyGraph) (n : Node) :
    (g.addNode n).bareNodes = g.bareNodes.insert n.id n.uncounted := by
  unfold addNode bareNodes
  rw [Dict.mapValues_insert]
  cases g.nodes.find? n.id <;> rfl

theorem contains_bareNodes (g : DependencyGraph) (k : String) :
    g.bareNodes.contains k = g.nodes.contains k := Dict.contains_mapValues _ _ _

theorem updateNode_eq (g : DependencyGraph) (id : String) (f : Node → Node) :
    g.updateNode id f =
      { g with nodes := g.nodes.mapValues fun k n => if k = id then f n else n } := by
  have hnodes : (g.updateNode id f).nodes =
      g.nodes.mapValues fun k n => if k = id then f n else n := by
    apply Dict.ext_find?
    intro k
    unfold updateNode
    by_cases hk : k = id
    · subst hk
      cases h : g.nodes.find? k <;> simp [h]
    · cases h : g.nodes.find? id <;> simp [hk]
  rw [← hnodes]
  unfold updateNode
  cases g.nodes.find? id <;> rfl

/-- The graph with one more edge, counted at both ends. -/
def withEdge (g : DependencyGraph) (e : Edge) : DependencyGraph :=
  { g with
    nodes := g.nodes.mapValues fun id n => n.counting id e
    edges := g.edges ++ [e] }

theorem find?_withEdge_eq_some_iff : (g.withEdge e).nodes.find? id = some n ↔
    ∃ old, g.nodes.find? id = some old ∧ old.counting id e = n := by
  simp only [withEdge, Dict.find?_mapValues, Option.map_eq_some_iff]

/-- An edge between nodes is put last and counted at its ends, if none with its key is there. -/
theorem addEdge_eq (hsource : g.nodes.contains e.source = true)
    (htarget : g.nodes.contains e.target = true) : g.addEdge e =
      if e.key ∈ g.edges.map Edge.key then .ok (g, false) else .ok (g.withEdge e, true) := by
  have hhas : g.hasEdge e = true ↔ e.key ∈ g.edges.map Edge.key := by simp [hasEdge]
  have hnodes : ((g.nodes.mapValues fun k n =>
        if k = e.source then { n with outDegree := n.outDegree + 1 } else n).mapValues fun k n =>
        if k = e.target then { n with inDegree := n.inDegree + 1 } else n) =
      g.nodes.mapValues fun id n => n.counting id e := by
    apply Dict.ext_find?
    intro k
    simp only [Dict.find?_mapValues, Option.map_map]
    congr 1
    funext n
    simp only [Node.counting, eq_comm (a := k)]
    by_cases hs : e.source = k <;> by_cases ht : e.target = k <;> simp [hs, ht]
  unfold addEdge
  rw [hsource, htarget]
  simp only [hhas, updateNode_eq, hnodes, withEdge, Bool.not_true, Bool.false_eq_true, if_false]

theorem addEdge_eq_ok_iff : g.addEdge e = .ok (d, added) ↔
    (g.nodes.contains e.source = true ∧ g.nodes.contains e.target = true) ∧
      (e.key ∈ g.edges.map Edge.key ∧ d = g ∧ added = false ∨
        e.key ∉ g.edges.map Edge.key ∧ d = g.withEdge e ∧ added = true) := by
  by_cases hsource : g.nodes.contains e.source = true
  · by_cases htarget : g.nodes.contains e.target = true
    · rw [addEdge_eq hsource htarget]
      by_cases hkey : e.key ∈ g.edges.map Edge.key <;> simp [hsource, htarget, hkey, eq_comm]
    · simp [addEdge, hsource, htarget]
  · simp [addEdge, hsource]

def ofNodes (nodes : List Node) : DependencyGraph :=
  nodes.foldl (fun g n => g.addNode n.uncounted) empty

theorem build_eq_ok_iff :
    build nodes es = .ok g ↔ ∃ d, (ofNodes nodes).addEdges es = .ok d ∧ d.refresh = g := by
  have hbuild : build nodes es = ((ofNodes nodes).addEdges es).map refresh := rfl
  rw [hbuild]
  cases (ofNodes nodes).addEdges es <;> simp [Except.map]

theorem ofText_eq_ok_iff {text : String} : ofText text = .ok g ↔ ∃ v nodes es,
    Json.parse? text = some v ∧ parts? v = some (nodes, es) ∧ build nodes es = .ok g := by
  unfold ofText
  cases Json.parse? text with
  | none => simp
  | some v =>
    simp only [ofDocument, Option.some.injEq, exists_and_left, exists_eq_left']
    cases parts? v with
    | none => simp
    | some parts =>
      obtain ⟨nodes, es⟩ := parts
      simp

/-! ### What every step keeps -/

namespace Counted

theorem empty : Counted .empty where
  ownId := by simp [DependencyGraph.empty]
  ends := by simp [DependencyGraph.empty]
  keys := .nil
  inDegree := by simp [DependencyGraph.empty]
  outDegree := by simp [DependencyGraph.empty]

theorem refresh (h : Counted g) : Counted g.refresh :=
  ⟨h.ownId, h.ends, h.keys, h.inDegree, h.outDegree⟩

theorem withEdge (h : Counted g) (hsource : g.nodes.contains e.source = true)
    (htarget : g.nodes.contains e.target = true) (hkey : e.key ∉ g.edges.map Edge.key) :
    Counted (g.withEdge e) where
  ownId id n hn := by
    obtain ⟨old, hold, rfl⟩ := find?_withEdge_eq_some_iff.mp hn
    exact h.ownId id old hold
  ends e' he' := by
    simp only [DependencyGraph.withEdge, Dict.contains_mapValues]
    rcases List.mem_append.mp he' with he' | he'
    · exact h.ends e' he'
    · obtain rfl := List.mem_singleton.mp he'
      exact ⟨hsource, htarget⟩
  keys := by
    simp only [DependencyGraph.withEdge, List.map_append, List.map_cons, List.map_nil]
    exact List.nodup_append.mpr ⟨h.keys, List.nodup_singleton _, fun a ha b hb hab =>
      hkey (List.mem_singleton.mp hb ▸ hab ▸ ha)⟩
  inDegree id n hn := by
    obtain ⟨old, hold, rfl⟩ := find?_withEdge_eq_some_iff.mp hn
    simp [DependencyGraph.withEdge, Node.counting, h.inDegree id old hold, List.countP_append,
      List.countP_cons]
  outDegree id n hn := by
    obtain ⟨old, hold, rfl⟩ := find?_withEdge_eq_some_iff.mp hn
    simp [DependencyGraph.withEdge, Node.counting, h.outDegree id old hold, List.countP_append,
      List.countP_cons]

theorem addEdge (h : Counted g) (hadd : g.addEdge e = .ok (d, added)) : Counted d := by
  obtain ⟨⟨hsource, htarget⟩, ⟨_, rfl, _⟩ | ⟨hkey, rfl, _⟩⟩ := addEdge_eq_ok_iff.mp hadd
  · exact h
  · exact h.withEdge hsource htarget hkey

/-- A new node has no edges yet; one that replaces another keeps its counts. -/
theorem addNode (h : Counted g) (hn : n.uncounted = n) : Counted (g.addNode n) := by
  have hin : n.inDegree = 0 := congrArg Node.inDegree hn.symm
  have hout : n.outDegree = 0 := congrArg Node.outDegree hn.symm
  have hcontains : ∀ k, g.nodes.contains k = true → (g.addNode n).nodes.contains k = true := by
    intro k hk
    simp [DependencyGraph.addNode, hk]
  have hnode : ∀ id m, (g.addNode n).nodes.find? id = some m → m.id = id ∧
      m.inDegree = g.edges.countP (·.target = id) ∧
      m.outDegree = g.edges.countP (·.source = id) := by
    intro id m hm
    cases hold : g.nodes.find? n.id with
    | some old =>
      simp only [DependencyGraph.addNode, hold, Dict.find?_insert] at hm
      split at hm
      next hid =>
        cases hm
        exact ⟨hid.symm, hid ▸ h.inDegree n.id old hold, hid ▸ h.outDegree n.id old hold⟩
      next => exact ⟨h.ownId id m hm, h.inDegree id m hm, h.outDegree id m hm⟩
    | none =>
      simp only [DependencyGraph.addNode, hold, Dict.find?_insert] at hm
      split at hm
      next hid =>
        cases hm
        subst hid
        -- no edge ends where no node was
        have hnone : ¬ g.nodes.contains n.id = true := by simp [Dict.contains, hold]
        have htarget : g.edges.countP (·.target = n.id) = 0 :=
          List.countP_eq_zero.mpr fun e he ht => hnone (of_decide_eq_true ht ▸ (h.ends e he).2)
        have hsource : g.edges.countP (·.source = n.id) = 0 :=
          List.countP_eq_zero.mpr fun e he hs => hnone (of_decide_eq_true hs ▸ (h.ends e he).1)
        exact ⟨rfl, hin.trans htarget.symm, hout.trans hsource.symm⟩
      next => exact ⟨h.ownId id m hm, h.inDegree id m hm, h.outDegree id m hm⟩
  exact {
    ownId := fun id m hm => (hnode id m hm).1
    ends := fun e he => ⟨hcontains _ (h.ends e he).1, hcontains _ (h.ends e he).2⟩
    keys := h.keys
    inDegree := fun id m hm => (hnode id m hm).2.1
    outDegree := fun id m hm => (hnode id m hm).2.2 }

theorem foldl_addNode (h : Counted g) (nodes : List Node) :
    Counted (nodes.foldl (fun g n => g.addNode n.uncounted) g) := by
  induction nodes generalizing g with
  | nil => exact h
  | cons n nodes ih => exact ih (h.addNode rfl)

theorem addEdges (h : Counted g) (hadd : g.addEdges es = .ok d) : Counted d := by
  induction es generalizing g with
  | nil => cases hadd; exact h
  | cons e es ih =>
    unfold DependencyGraph.addEdges at hadd
    split at hadd
    next g' added he => exact ih (h.addEdge he) hadd
    next => cases hadd

theorem build (h : DependencyGraph.build nodes es = .ok g) : Counted g := by
  obtain ⟨d, hd, rfl⟩ := build_eq_ok_iff.mp h
  exact ((empty.foldl_addNode nodes).addEdges hd).refresh

theorem ofText {text : String} (h : DependencyGraph.ofText text = .ok g) : Counted g := by
  obtain ⟨_, _, _, -, -, hbuild⟩ := ofText_eq_ok_iff.mp h
  exact build hbuild

theorem ensureNode (h : Counted g) (id : String) : Counted (g.ensureNode id) := by
  unfold DependencyGraph.ensureNode
  split
  · exact h
  · exact h.addNode rfl

theorem addDependency (h : Counted g) (dep : Dependency) : Counted (g.addDependency dep) := by
  have hnodes := (h.ensureNode dep.source).ensureNode dep.target
  unfold DependencyGraph.addDependency
  dsimp only
  split
  next hadd => exact hnodes.addEdge hadd
  next => exact hnodes

theorem ofSurvey (s : Survey) : Counted (ofSurvey s) := by
  have hmodules : ∀ (modules : List Module) (g : DependencyGraph), Counted g →
      Counted (modules.foldl (fun g m => g.addNode (moduleNode m)) g) := by
    intro modules
    induction modules with
    | nil => exact fun g h => h
    | cons m modules ih =>
      intro g h
      exact ih _ (h.addNode (Node.uncounted_foldl_addTag _ _))
  have hdependencies : ∀ (deps : List Dependency) (g : DependencyGraph), Counted g →
      Counted (deps.foldl DependencyGraph.addDependency g) := by
    intro deps
    induction deps with
    | nil => exact fun g h => h
    | cons dep deps ih => exact fun g h => ih _ (h.addDependency dep)
  exact (hdependencies _ _ (hmodules _ _ empty)).refresh

end Counted

/-- However a graph comes about, it counts its edges. -/
theorem Built.counted (h : Built g) : Counted g := by
  induction h with
  | empty => exact .empty
  | ofSurvey s => exact .ofSurvey s
  | ofText h => exact .ofText h
  | addNode n hn _ ih => exact ih.addNode hn
  | addEdge _ hadd ih => exact ih.addEdge hadd
  | refresh _ ih => exact ih.refresh

theorem Built.withEdge (h : Built g) (hends : g.nodes.contains e.source = true ∧
    g.nodes.contains e.target = true) (hnew : e.key ∉ g.edges.map Edge.key) :
    Built (g.withEdge e) :=
  h.addEdge (addEdge_eq_ok_iff.mpr ⟨hends, .inr ⟨hnew, rfl, rfl⟩⟩)

end DependencyGraph

end TagAtlas
