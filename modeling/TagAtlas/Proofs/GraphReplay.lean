import TagAtlas.Proofs.GraphCounts

/-!
# Building a graph again from its parts

The nodes of a graph and its edges in any order make the same graph again: nodes, counts, cycles
and levels are the same, and the edges come in the new order.
-/

namespace TagAtlas

theorem Node.eq_of_uncounted {m n : Node} (h : m.uncounted = n.uncounted)
    (hin : m.inDegree = n.inDegree) (hout : m.outDegree = n.outDegree) : m = n :=
  calc m = { m.uncounted with inDegree := m.inDegree, outDegree := m.outDegree } := rfl
    _ = { n.uncounted with inDegree := n.inDegree, outDegree := n.outDegree } := by rw [h, hin, hout]
    _ = n := rfl

namespace DependencyGraph

variable {g d : DependencyGraph} {es : List Edge}

/-! ### The order of the edges -/

theorem nodes_eq_of_perm (hg : Counted g) (hd : Counted d) (hbare : d.bareNodes = g.bareNodes)
    (hperm : d.edges.Perm g.edges) : d.nodes = g.nodes := by
  apply Dict.ext_find?
  intro id
  have hfind : (d.nodes.find? id).map Node.uncounted = (g.nodes.find? id).map Node.uncounted := by
    simpa [bareNodes] using congrArg (Dict.find? · id) hbare
  cases hn : g.nodes.find? id with
  | none =>
    rw [hn, Option.map_none, Option.map_eq_none_iff] at hfind
    exact hfind
  | some n =>
    rw [hn, Option.map_some] at hfind
    obtain ⟨m, hm, hsame⟩ := Option.map_eq_some_iff.mp hfind
    have hin : m.inDegree = n.inDegree := by
      rw [hd.inDegree id m hm, hg.inDegree id n hn, hperm.countP_eq]
    have hout : m.outDegree = n.outDegree := by
      rw [hd.outDegree id m hm, hg.outDegree id n hn, hperm.countP_eq]
    rw [hm, Node.eq_of_uncounted hsame hin hout]

theorem dependenciesOf_of_perm (hperm : d.edges.Perm g.edges) (id : String) :
    d.dependenciesOf id = g.dependenciesOf id := by
  refine Dict.eq_of_pairwise_of_mem_iff (Dict.sortedSet_pairwise _) (Dict.sortedSet_pairwise _) ?_
  intro k
  unfold dependenciesOf
  rw [Dict.mem_sortedSet, Dict.mem_sortedSet]
  exact ((hperm.filter _).map _).mem_iff

theorem find?_foldl_update (adj : Adjacency) (es : List Edge) (k : String)
    (hsource : ∀ e ∈ es, adj.contains e.source = true) :
    (es.foldl (fun adj e => adj.update e.source [] (· ++ [e.target])) adj).find? k =
      (adj.find? k).map (· ++ (es.filter (·.source = k)).map Edge.target) := by
  induction es generalizing adj with
  | nil => simp
  | cons e es ih =>
    have hlater : ∀ e' ∈ es,
        (adj.update e.source [] (· ++ [e.target])).contains e'.source = true := by
      intro e' he'
      simp [Dict.update, hsource e' (List.mem_cons_of_mem _ he')]
    rw [List.foldl_cons, ih _ hlater]
    by_cases hk : e.source = k
    · subst hk
      obtain ⟨targets, htargets⟩ := Option.isSome_iff_exists.mp (hsource e List.mem_cons_self)
      simp [Dict.update, htargets]
    · simp [Dict.update, hk, Ne.symm hk]

/-- Each node leads to what its edges lead to. -/
theorem adjacency_eq (h : Counted g) :
    g.adjacency = g.nodes.mapValues fun id _ => g.dependenciesOf id := by
  apply Dict.ext_find?
  intro k
  have hsource : ∀ e ∈ g.edges,
      (g.nodes.mapValues fun _ _ => ([] : List String)).contains e.source = true := by
    intro e he
    rw [Dict.contains_mapValues]
    exact (h.ends e he).1
  unfold adjacency
  rw [Dict.find?_mapValues, find?_foldl_update _ _ _ hsource, Dict.find?_mapValues,
    Dict.find?_mapValues, Option.map_map, Option.map_map]
  rfl

theorem refresh_of_perm (hg : Counted g) (hd : Counted d) (hbare : d.bareNodes = g.bareNodes)
    (hperm : d.edges.Perm g.edges) : d.refresh = { g.refresh with edges := d.edges } := by
  have hnodes := nodes_eq_of_perm hg hd hbare hperm
  have hadjacency : d.adjacency = g.adjacency := by
    rw [adjacency_eq hd, adjacency_eq hg, hnodes]
    congr 1
    funext id _
    exact dependenciesOf_of_perm hperm id
  simp only [refresh, hadjacency, hnodes]

/-! ### Adding nodes and edges -/

theorem bareNodes_foldl_addNode (g : DependencyGraph) (nodes : List Node) :
    (nodes.foldl (fun g n => g.addNode n.uncounted) g).bareNodes =
      (nodes.map fun n => (n.id, n.uncounted)).foldl (fun d e => d.insert e.1 e.2) g.bareNodes := by
  induction nodes generalizing g with
  | nil => rfl
  | cons n nodes ih =>
    rw [List.foldl_cons, ih, bareNodes_addNode]
    rfl

theorem edges_foldl_addNode (g : DependencyGraph) (nodes : List Node) :
    (nodes.foldl (fun g n => g.addNode n.uncounted) g).edges = g.edges := by
  induction nodes generalizing g with
  | nil => rfl
  | cons n nodes ih => exact ih (g.addNode n.uncounted)

theorem bareNodes_ofNodes_values (h : Counted g) :
    (ofNodes g.nodes.values).bareNodes = g.bareNodes := by
  have hpairs : (g.nodes.values.map fun n => (n.id, n.uncounted)) = g.bareNodes.entries := by
    unfold bareNodes Dict.mapValues Dict.values
    rw [List.map_map]
    refine List.map_congr_left fun entry hentry => ?_
    have hid : entry.2.id = entry.1 := h.ownId _ _ (Dict.mem_entries_iff.mp hentry)
    rw [Function.comp_apply, hid]
  rw [ofNodes, bareNodes_foldl_addNode, hpairs]
  exact Dict.ofList_entries g.bareNodes

theorem bareNodes_withEdge (g : DependencyGraph) (e : Edge) :
    (g.withEdge e).bareNodes = g.bareNodes := by
  apply Dict.ext_find?
  intro k
  simp only [bareNodes, withEdge, Dict.find?_mapValues, Option.map_map]
  rfl

/-- Edges between nodes, each with a key of its own, are all put last. -/
theorem addEdges_eq_ok (hkeys : ((g.edges ++ es).map Edge.key).Nodup)
    (hends : ∀ e ∈ es, g.nodes.contains e.source = true ∧ g.nodes.contains e.target = true) :
    ∃ d, g.addEdges es = .ok d ∧ d.edges = g.edges ++ es ∧ d.bareNodes = g.bareNodes := by
  induction es generalizing g with
  | nil => exact ⟨g, rfl, by simp, rfl⟩
  | cons e es ih =>
    obtain ⟨hsource, htarget⟩ := hends e List.mem_cons_self
    have hnew : e.key ∉ g.edges.map Edge.key := by
      intro hmem
      rw [List.map_append, List.map_cons] at hkeys
      exact (List.nodup_append.mp hkeys).2.2 _ hmem _ List.mem_cons_self rfl
    have hedges : (g.withEdge e).edges ++ es = g.edges ++ e :: es := by simp [withEdge]
    obtain ⟨d, hd, hdedges, hdbare⟩ := @ih (g.withEdge e) (hedges ▸ hkeys) fun e' he' => by
      simpa [withEdge] using hends e' (List.mem_cons_of_mem _ he')
    refine ⟨d, ?_, hdedges.trans hedges, hdbare.trans (bareNodes_withEdge g e)⟩
    rw [addEdges, addEdge_eq hsource htarget, if_neg hnew]
    exact hd

/-- The parts of a graph make it again, whatever the order of the edges. -/
theorem build_of_perm (h : Counted g) (hperm : es.Perm g.edges) :
    build g.nodes.values es = .ok { g.refresh with edges := es } := by
  have hbare := bareNodes_ofNodes_values h
  have hedges : (ofNodes g.nodes.values).edges = [] := edges_foldl_addNode .empty g.nodes.values
  have hkeys : (((ofNodes g.nodes.values).edges ++ es).map Edge.key).Nodup := by
    rw [hedges, List.nil_append]
    exact (hperm.map _).nodup_iff.mpr h.keys
  have hends : ∀ e ∈ es, (ofNodes g.nodes.values).nodes.contains e.source = true ∧
      (ofNodes g.nodes.values).nodes.contains e.target = true := by
    intro e he
    rw [← contains_bareNodes, ← contains_bareNodes, hbare, contains_bareNodes, contains_bareNodes]
    exact h.ends e (hperm.mem_iff.mp he)
  obtain ⟨d, hadd, hdedges, hdbare⟩ := addEdges_eq_ok hkeys hends
  have hd : Counted d := (Counted.empty.foldl_addNode g.nodes.values).addEdges hadd
  rw [hedges, List.nil_append] at hdedges
  refine build_eq_ok_iff.mpr ⟨d, hadd, ?_⟩
  rw [refresh_of_perm h hd (hdbare.trans hbare) (hdedges ▸ hperm), hdedges]

end DependencyGraph

/-! ### Sorted edges -/

namespace Edge

/-- Where the edges with a key are listed: by their ends, then by the name of their kind. -/
def place (key : String × String × DependencyKind) : String ×ₗ String ×ₗ String :=
  toLex (key.1, toLex (key.2.1, key.2.2.name))

theorem precedes_iff (a b : Edge) : a.precedes b = true ↔ place a.key ≤ place b.key := by
  simp only [place, key, Prod.Lex.toLex_le_toLex, precedes]
  by_cases hsource : a.source = b.source
  · by_cases htarget : a.target = b.target <;> simp [hsource, htarget]
  · simp [hsource]

theorem place_injective : Function.Injective place := by
  rintro ⟨source, target, kind⟩ ⟨source', target', kind'⟩ hsame
  simp only [place, toLex_inj, Prod.mk.injEq] at hsame ⊢
  obtain ⟨hsource, htarget, hname⟩ := hsame
  refine ⟨hsource, htarget, ?_⟩
  revert hname
  cases kind <;> cases kind' <;> simp [DependencyKind.name]

end Edge

theorem DependencyGraph.sortedEdges_perm (g : DependencyGraph) : g.sortedEdges.Perm g.edges :=
  List.mergeSort_perm _ _

theorem DependencyGraph.sortedEdges_of_sorted (g : DependencyGraph) :
    { g with edges := g.sortedEdges }.sortedEdges = g.sortedEdges :=
  List.mergeSort_of_pairwise <|
    (pairwise_le_mergeSort Edge.precedes_iff g.edges).imp fun h => (Edge.precedes_iff _ _).mpr h

end TagAtlas
