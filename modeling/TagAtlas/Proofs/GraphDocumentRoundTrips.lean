import TagAtlas.Proofs.GraphDocuments
import TagAtlas.Proofs.GraphLevels
import TagAtlas.Proofs.JsonFiniteNumbers

/-!
# Graphs that are printed and read

A graph is read as it was printed when its numbers have room in 64 bits and its weights read back.
The weights of a graph that was read are finite, and its counts and levels were made from its edges.
So what it prints is read as a graph that prints the same, whatever the first text said.
-/

namespace TagAtlas

namespace Json

variable {α : Type} {read : Json → Option α} {v w : Json}

theorem finite_of_list? {l : List α} (h : list? read v = some l) (hv : v.Finite) :
    ∀ a ∈ l, ∃ w : Json, w.Finite ∧ read w = some a := by
  cases hv with
  | @array items hitems =>
    replace h : items.mapM read = some l := h
    induction items generalizing l with
    | nil =>
      cases h
      exact List.forall_mem_nil _
    | cons item items ih =>
      rw [List.mapM_cons] at h
      obtain ⟨a, ha, hrest⟩ := Option.bind_eq_some_iff.mp h
      obtain ⟨l, hl, hcons⟩ := Option.bind_eq_some_iff.mp hrest
      cases hcons
      obtain ⟨hitem, hitems⟩ := List.forall_mem_cons.mp hitems
      exact List.forall_mem_cons.mpr ⟨⟨item, hitem, ha⟩, ih hitems hl⟩
  | _ => cases h

theorem finite_of_record? {names : List String} {r : Record} {name : String}
    (h : record? names v = some r) (hv : v.Finite) (hlookup : r.fields.lookup name = some w) :
    w.Finite := by
  have hmem : (name, w) ∈ r.fields := by
    obtain ⟨before, after, hfields, -⟩ := List.lookup_eq_some_iff.mp hlookup
    simp [hfields]
  cases hv with
  | object hmembers =>
    change (if _ then some _ else none) = some r at h
    split at h <;> cases h
    exact hmembers _ hmem
  | array hitems =>
    change (if _ then some _ else none) = some r at h
    split at h <;> cases h
    exact hitems _ (List.of_mem_zip hmem).2
  | _ => cases h

end Json

theorem Edge.isFinite_weight {e : Edge} {v : Json} (h : Edge.ofJson? v = some e) (hv : v.Finite) :
    e.weight.isFinite = true := by
  simp only [Edge.ofJson?, Option.bind_eq_bind, Option.bind_eq_some_iff, Option.pure_def,
    Option.some.injEq, Json.Record.required] at h
  obtain ⟨r, hr, source, -, target, -, kind, -, weight, ⟨w, hlookup, hw⟩, metadata, -, rfl⟩ := h
  have hfinite := Json.finite_of_record? hr hv hlookup
  cases hfinite with
  | number hn =>
    cases hw
    exact hn
  | _ => cases hw

namespace DependencyGraph

variable {g d : DependencyGraph} {text : String} {es : List Edge} {nodes : List Node}

theorem mem_edges_of_addEdges (h : g.addEdges es = .ok d) :
    ∀ e ∈ d.edges, e ∈ g.edges ∨ e ∈ es := by
  induction es generalizing g with
  | nil => cases h; exact fun e he => .inl he
  | cons e es ih =>
    unfold addEdges at h
    split at h
    next g' added hadd =>
      intro e' he'
      rcases ih h e' he' with hmem | hmem
      · obtain ⟨-, ⟨_, rfl, _⟩ | ⟨_, rfl, _⟩⟩ := addEdge_eq_ok_iff.mp hadd
        · exact .inl hmem
        · rcases List.mem_append.mp hmem with hmem | hmem
          · exact .inl hmem
          · exact .inr (List.mem_singleton.mp hmem ▸ List.mem_cons_self)
      · exact .inr (List.mem_cons_of_mem _ hmem)
    next => cases h

theorem mem_edges_of_build (h : build nodes es = .ok g) : ∀ e ∈ g.edges, e ∈ es := by
  obtain ⟨d, hd, rfl⟩ := build_eq_ok_iff.mp h
  intro e he
  have hnone : (ofNodes nodes).edges = [] := edges_foldl_addNode .empty nodes
  rcases mem_edges_of_addEdges hd e he with hmem | hmem
  · simp [hnone] at hmem
  · exact hmem

/-- The weights of a graph that was read from a text are finite. -/
theorem isFinite_weight_of_ofText (h : ofText text = .ok g) :
    ∀ e ∈ g.edges, e.weight.isFinite = true := by
  obtain ⟨v, nodes, es, hparse, hparts, hbuild⟩ := ofText_eq_ok_iff.mp h
  simp only [parts?, Option.bind_eq_bind, Option.bind_eq_some_iff, Option.pure_def,
    Option.some.injEq, Json.Record.required] at hparts
  obtain ⟨r, hr, _, -, _, ⟨listed, hlookup, hlist⟩, _, -, _, -, hparts⟩ := hparts
  cases hparts
  intro e he
  have hlisted := Json.finite_of_record? hr (Json.finite_of_parse? hparse) hlookup
  obtain ⟨w, hw, hread⟩ := Json.finite_of_list? hlist hlisted e (mem_edges_of_build hbuild e he)
  exact Edge.isFinite_weight hread hw

theorem refresh_of_ofText (h : ofText text = .ok g) : g.refresh = g := by
  obtain ⟨_, nodes, es, -, -, hbuild⟩ := ofText_eq_ok_iff.mp h
  obtain ⟨d, -, rfl⟩ := build_eq_ok_iff.mp hbuild
  rfl

/-- Nodes and edges are no more than 64 bits can count. -/
structure Fits (g : DependencyGraph) : Prop where
  nodes : g.nodes.size ≤ 0x10000000000000000
  edges : g.edges.length < 0x10000000000000000

instance (g : DependencyGraph) : Decidable g.Fits :=
  decidable_of_iff (g.nodes.size ≤ 0x10000000000000000 ∧ g.edges.length < 0x10000000000000000)
    ⟨fun h => ⟨h.1, h.2⟩, fun h => ⟨h.nodes, h.edges⟩⟩

theorem target_mem_nodes (h : Counted g) {m n : String} (hedge : g.adjacency.Edge m n) :
    g.nodes.contains n = true := by
  obtain ⟨ids, hids, hn⟩ := Adjacency.edge_iff.mp hedge
  rw [adjacency_eq h, Dict.find?_mapValues] at hids
  obtain ⟨_, -, rfl⟩ := Option.map_eq_some_iff.mp hids
  obtain ⟨e, he, rfl⟩ := List.mem_map.mp (Dict.mem_sortedSet.mp hn)
  exact (h.ends e (List.mem_of_mem_filter he)).2

theorem size_levels_le (h : Counted g) : g.adjacency.levels.size ≤ g.nodes.size := by
  have hsub : g.adjacency.levels.keys ⊆ g.nodes.keys := by
    intro n hn
    rw [Dict.mem_keys_iff] at hn ⊢
    rcases Adjacency.contains_levels_iff.mp hn with hdeclared | ⟨m, hedge⟩
    · rwa [adjacency_eq h, Dict.contains_mapValues] at hdeclared
    · exact target_mem_nodes h hedge
  have hlen := ((Dict.keys_nodup _).subperm hsub).length_le
  simpa only [Dict.keys, Dict.size, List.length_map] using hlen

theorem Fits.countsFit (hfits : g.Fits) (h : Counted g) : g.refresh.CountsFit where
  inDegree n hn := by
    obtain ⟨id, hid⟩ := Dict.mem_values_iff.mp hn
    rw [h.inDegree id n hid]
    exact Nat.lt_of_le_of_lt List.countP_le_length hfits.edges
  outDegree n hn := by
    obtain ⟨id, hid⟩ := Dict.mem_values_iff.mp hn
    rw [h.outDegree id n hid]
    exact Nat.lt_of_le_of_lt List.countP_le_length hfits.edges
  level l hl := by
    obtain ⟨id, hid⟩ := Dict.mem_values_iff.mp hl
    have hlt := Adjacency.level_lt_size hid
    exact Nat.lt_of_lt_of_le hlt (Nat.le_trans (size_levels_le h) hfits.nodes)

theorem toText_sorted (g : DependencyGraph) :
    { g with edges := g.sortedEdges }.toText = g.toText := by
  unfold toText toDocument
  rw [sortedEdges_of_sorted]

/-- The finite weights of the edges are read as they are printed. -/
def WeightsReadBack (g : DependencyGraph) : Prop :=
  ∀ e ∈ g.edges, e.weight.isFinite = true → Json.ReadsBack e.weight

instance (g : DependencyGraph) : Decidable g.WeightsReadBack :=
  inferInstanceAs (Decidable (∀ e ∈ g.edges, _ → _))

/-- A refreshed graph with finite weights is read as it was printed, with its edges sorted. What a
text is read as, printed, is read as a graph that prints the same. -/
theorem documentsRoundTrip :
    (∀ g : DependencyGraph, Built g → g.Fits → (∀ e ∈ g.edges, e.weight.isFinite = true) →
      g.WeightsReadBack →
      ofText g.refresh.toText = .ok { g.refresh with edges := g.sortedEdges }) ∧
    (∀ (text : String) (g : DependencyGraph), ofText text = .ok g → g.Fits → g.WeightsReadBack →
      ∃ d, ofText g.toText = .ok d ∧ d.toText = g.toText) := by
  constructor
  · intro g hbuilt hfits hfinite hback
    have hcounted := hbuilt.counted
    exact ofText_toText hcounted (hfits.countsFit hcounted) fun e he => hback e he (hfinite e he)
  · intro text g htext hfits hback
    have hcounted := Counted.ofText htext
    have hfinite := isFinite_weight_of_ofText htext
    have hread := ofText_toText hcounted (hfits.countsFit hcounted) fun e he =>
      hback e he (hfinite e he)
    rw [refresh_of_ofText htext] at hread
    exact ⟨_, hread, toText_sorted g⟩

/-- A graph with a cycle and a node that was replaced, and a document that lists records without
names, a node and an edge twice, and counts and levels that are wrong. -/
theorem documentsRoundTrip_shuffled_document :
    let edge (source target : String) (weight : Float) : Edge :=
      ⟨source, target, .import, weight, .empty⟩
    let two := (empty.addNode (.new "b" .module)).addNode (.new "a" .module)
    let g := ((two.withEdge (edge "b" "a" 0.5)).withEdge (edge "a" "b" 1.0)).addNode
      ((Node.new "b" .module).addTag "core")
    let text := "[[[\"b\",\"\",\"module\",[],\x7b\x7d,7,0],[\"a\",\"\",\"module\",[],\x7b\x7d,0,0]," ++
      "[\"b\",\"B\",\"module\",[],\x7b\x7d,0,0]],[[\"b\",\"a\",\"import\",1,\x7b\x7d]," ++
      "[\"a\",\"b\",\"import\",2.5,\x7b\x7d],[\"b\",\"a\",\"import\",3,\x7b\x7d]],[],\x7b\"c\":9\x7d]"
    ofText g.refresh.toText = .ok { g.refresh with edges := g.sortedEdges } ∧
      ∃ d d', ofText text = .ok d ∧ d.nodes.size = 2 ∧ d.edges.length = 2 ∧
        ofText d.toText = .ok d' ∧ d'.toText = d.toText := by
  intro edge two g text
  have htwo : Built two := .addNode _ rfl (.addNode _ rfl .empty)
  have hedge : Built (two.withEdge (edge "b" "a" 0.5)) :=
    htwo.withEdge (by decide +kernel) (by decide +kernel)
  have hg : Built g := .addNode _ rfl (hedge.withEdge (by decide +kernel) (by decide +kernel))
  have hread : (ofText text).toOption.any (fun d => decide (d.Fits ∧ d.WeightsReadBack ∧
      d.nodes.size = 2 ∧ d.edges.length = 2)) = true := by decide +kernel
  obtain ⟨d, hsome, hchecks⟩ := (Option.any_eq_true _ _).mp hread
  obtain ⟨hfits, hback, hnodes, hedges⟩ := of_decide_eq_true hchecks
  have htext : ofText text = .ok d := by
    cases h : ofText text with
    | ok d' =>
      rw [h] at hsome
      cases hsome
      rfl
    | error =>
      rw [h] at hsome
      cases hsome
  obtain ⟨d', hagain, hsame⟩ := documentsRoundTrip.2 text d htext hfits hback
  exact ⟨documentsRoundTrip.1 g hg (by decide +kernel) (by decide +kernel) (by decide +kernel),
    d, d', htext, hnodes, hedges, hagain, hsame⟩

end DependencyGraph

end TagAtlas
