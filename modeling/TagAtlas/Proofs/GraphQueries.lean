import TagAtlas.Proofs.GraphReachability
import TagAtlas.Proofs.GraphReplay

/-!
# What a dependency graph answers

Degrees are counted apart from the edges, edge by edge. Whatever is done to a graph, the counts
agree with the edges, so what is read off the counts is what the edges say: which nodes have no
dependents, no dependencies, or neither. An edge that is refused or already there moves nothing.
-/

namespace TagAtlas.DependencyGraph

open Relation

/-- A call that changes a graph, unless it is refused. -/
inductive Call where
  | addNode (n : Node)
  | addEdge (e : Edge)
  | refresh

/-- Adds an edge, or leaves the graph as it is when the edge is refused. -/
def tryEdge (g : DependencyGraph) (e : Edge) : Except Failure Bool × DependencyGraph :=
  match g.addEdge e with
  | .ok (d, added) => (.ok added, d)
  | .error f => (.error f, g)

def apply (g : DependencyGraph) : Call → DependencyGraph
  | .addNode n => g.addNode n
  | .addEdge e => (g.tryEdge e).2
  | .refresh => g.refresh

def after (g : DependencyGraph) (calls : List Call) : DependencyGraph := calls.foldl apply g

/-- The nodes that are put in have no counts of their own. -/
def AddsBare (calls : List Call) : Prop := ∀ n, .addNode n ∈ calls → n.uncounted = n

variable {g : DependencyGraph} {e : Edge}

theorem built_tryEdge (h : Built g) (e : Edge) : Built (g.tryEdge e).2 := by
  unfold tryEdge
  cases hadd : g.addEdge e with
  | ok answer => exact .addEdge h hadd
  | error f => exact h

theorem built_apply (h : Built g) {call : Call} (hbare : ∀ n, call = .addNode n → n.uncounted = n) :
    Built (g.apply call) := by
  cases call with
  | addNode n => exact .addNode n (hbare n rfl) h
  | addEdge e => exact built_tryEdge h e
  | refresh => exact .refresh h

theorem built_after (h : Built g) {calls : List Call} (hbare : AddsBare calls) :
    Built (g.after calls) := by
  induction calls generalizing g with
  | nil => exact h
  | cons call calls ih =>
    have hcall : Built (g.apply call) :=
      built_apply h fun n hn => hbare n (hn ▸ List.mem_cons_self)
    exact ih hcall fun n hn => hbare n (List.mem_cons_of_mem _ hn)

theorem tryEdge_snd (hadd : (g.tryEdge e).1 ≠ .ok true) : (g.tryEdge e).2 = g := by
  unfold tryEdge at hadd ⊢
  cases h : g.addEdge e with
  | error f => rfl
  | ok answer =>
    obtain ⟨d, added⟩ := answer
    obtain ⟨-, ⟨-, rfl, -⟩ | ⟨-, -, rfl⟩⟩ := addEdge_eq_ok_iff.mp h
    · rfl
    · exact absurd (by rw [h]) hadd

/-! ### Counts and edges -/

theorem mem_dependenciesOf_iff {x y : String} :
    x ∈ g.dependenciesOf y ↔ ∃ e ∈ g.edges, e.source = y ∧ e.target = x := by
  simp [dependenciesOf, and_assoc]

theorem mem_dependentsOf_iff {x y : String} :
    x ∈ g.dependentsOf y ↔ ∃ e ∈ g.edges, e.target = y ∧ e.source = x := by
  simp [dependentsOf, and_assoc]

theorem dependenciesOf_eq_nil_iff {id : String} :
    g.dependenciesOf id = [] ↔ g.edges.countP (·.source = id) = 0 := by
  rw [dependenciesOf, Dict.sortedSet_eq_nil_iff, List.map_eq_nil_iff, List.filter_eq_nil_iff,
    List.countP_eq_zero]

theorem dependentsOf_eq_nil_iff {id : String} :
    g.dependentsOf id = [] ↔ g.edges.countP (·.target = id) = 0 := by
  rw [dependentsOf, Dict.sortedSet_eq_nil_iff, List.map_eq_nil_iff, List.filter_eq_nil_iff,
    List.countP_eq_zero]

/-- Counted at one of their ends, all edges are counted once. -/
theorem sum_countP_end {ids : List String} (hids : ids.Nodup) (es : List Edge) (f : Edge → String)
    (hends : ∀ e ∈ es, f e ∈ ids) : (ids.map fun id => es.countP (f · = id)).sum = es.length := by
  have hcount : ∀ id, es.countP (f · = id) = ((es.map f : List String) : Multiset String).count id := by
    intro id
    rw [Multiset.coe_count, List.count_eq_countP, List.countP_map]
    rfl
  have hmem : ∀ id ∈ ((es.map f : List String) : Multiset String), id ∈ ids.toFinset := by
    intro id hid
    obtain ⟨e, he, rfl⟩ := List.mem_map.mp (Multiset.mem_coe.mp hid)
    exact List.mem_toFinset.mpr (hends e he)
  simp only [hcount]
  rw [← List.sum_toFinset _ hids, Multiset.sum_count_eq_card hmem, Multiset.coe_card,
    List.length_map]

/-- A degree that counts edges at one of their ends adds up to all edges. -/
theorem sum_degree (degree : Node → Nat) (f : Edge → String)
    (hends : ∀ e ∈ g.edges, g.nodes.contains (f e) = true)
    (hdegree : ∀ id n, g.nodes.find? id = some n → degree n = g.edges.countP (f · = id)) :
    (g.nodes.values.map degree).sum = g.edges.length := by
  have hvalues : g.nodes.values.map degree =
      g.nodes.keys.map fun id => g.edges.countP (f · = id) := by
    unfold Dict.values Dict.keys
    rw [List.map_map, List.map_map]
    exact List.map_congr_left fun entry hentry => hdegree _ _ (Dict.mem_entries_iff.mp hentry)
  rw [hvalues]
  exact sum_countP_end g.nodes.keys_nodup _ f fun e he => Dict.mem_keys_iff.mpr (hends e he)

/-- The nodes that pass a test, when the test can be made on their ids. -/
theorem idsWhere_eq (h : Counted g) {test : Node → Bool} {p : String → Bool}
    (htest : ∀ id n, g.nodes.find? id = some n → test n = p id) :
    g.idsWhere test = g.nodes.keys.filter p := by
  have hentry : ∀ entry ∈ g.nodes.entries, test entry.2 = p entry.1 ∧ entry.2.id = entry.1 := by
    intro entry hmem
    have hfind := Dict.mem_entries_iff.mp hmem
    exact ⟨htest _ _ hfind, h.ownId _ _ hfind⟩
  unfold idsWhere Dict.values Dict.keys
  rw [List.filter_map, List.filter_map, List.map_map]
  have hfilter : g.nodes.entries.filter (test ∘ Prod.snd) =
      g.nodes.entries.filter (p ∘ Prod.fst) :=
    List.filter_congr fun entry hmem => (hentry entry hmem).1
  rw [hfilter]
  exact List.map_congr_left fun entry hmem => (hentry entry (List.mem_of_mem_filter hmem)).2

/-! ### The queries -/

/-- Counts agree with the edges, and so do the answers that are read off them. -/
structure Represents (g : DependencyGraph) : Prop extends Counted g where
  inDegrees : (g.nodes.values.map Node.inDegree).sum = g.edges.length
  outDegrees : (g.nodes.values.map Node.outDegree).sum = g.edges.length
  unmoved : ∀ e, (g.tryEdge e).1 ≠ .ok true → (g.tryEdge e).2 = g
  successors : ∀ id, g.adjacency.successors id = g.dependenciesOf id
  dependents : ∀ x y, x ∈ g.dependentsOf y ↔ y ∈ g.dependenciesOf x
  roots : g.roots = g.nodes.keys.filter fun id => g.dependentsOf id = []
  leaves : g.leaves = g.nodes.keys.filter fun id => g.dependenciesOf id = []
  isolated : g.isolated = g.nodes.keys.filter fun id =>
    g.dependentsOf id = [] ∧ g.dependenciesOf id = []

theorem successors_adjacency (h : Counted g) (id : String) :
    g.adjacency.successors id = g.dependenciesOf id := by
  rw [Adjacency.successors, adjacency_eq h, Dict.find?_mapValues]
  cases hfind : g.nodes.find? id with
  | some n => rfl
  | none =>
    -- no edge leaves what is no node
    refine (dependenciesOf_eq_nil_iff.mpr (List.countP_eq_zero.mpr fun e he hs => ?_)).symm
    have hcontains := (h.ends e he).1
    rw [of_decide_eq_true hs, Dict.contains, hfind] at hcontains
    cases hcontains

theorem Counted.represents (h : Counted g) : Represents g where
  toCounted := h
  inDegrees := sum_degree Node.inDegree Edge.target (fun e he => (h.ends e he).2) h.inDegree
  outDegrees := sum_degree Node.outDegree Edge.source (fun e he => (h.ends e he).1) h.outDegree
  unmoved _ := tryEdge_snd
  successors := successors_adjacency h
  dependents x y := by
    rw [mem_dependentsOf_iff, mem_dependenciesOf_iff]
    exact exists_congr fun e => and_congr_right fun _ => and_comm
  roots := idsWhere_eq h fun id n hn => by
    rw [decide_eq_decide, h.inDegree id n hn, dependentsOf_eq_nil_iff]
  leaves := idsWhere_eq h fun id n hn => by
    rw [decide_eq_decide, h.outDegree id n hn, dependenciesOf_eq_nil_iff]
  isolated := idsWhere_eq h fun id n hn => by
    rw [← Bool.decide_and, decide_eq_decide, h.inDegree id n hn, h.outDegree id n hn,
      dependentsOf_eq_nil_iff, dependenciesOf_eq_nil_iff]

theorem Counted.mem_transitiveDependencies_iff (h : Counted g) {id x : String} :
    x ∈ g.transitiveDependencies id ↔
      x ≠ id ∧ TransGen (fun a b => ∃ e ∈ g.edges, e.source = a ∧ e.target = b) id x := by
  have hedge : g.adjacency.Edge = fun a b => ∃ e ∈ g.edges, e.source = a ∧ e.target = b := by
    funext a b
    rw [Adjacency.Edge, successors_adjacency h, mem_dependenciesOf_iff]
  rw [transitiveDependencies, Adjacency.mem_reachable_iff, hedge]

/-- However a graph came about and whatever calls follow, accepted or refused, its counts and the
answers to queries are what its edges say. -/
theorem represents_after (h : Built g) {calls : List Call} (hbare : AddsBare calls) :
    Represents (g.after calls) :=
  (built_after h hbare).counted.represents

/-- A loop, two edges side by side, one of them offered again, an edge to no node, and a node that
is replaced. -/
theorem represents_after_refused_edges :
    let edge (source target : String) (kind : DependencyKind) : Edge :=
      ⟨source, target, kind, 1.0, .empty⟩
    let calls : List Call := [.addNode (.new "a" .module), .addNode (.new "b" .module),
      .addEdge (edge "a" "a" .module), .addEdge (edge "a" "b" .module),
      .addEdge (edge "a" "b" .import), .addEdge (edge "a" "b" .import),
      .addEdge (edge "a" "c" .module), .addNode (.new "a" .external), .refresh]
    let g := empty.after calls
    AddsBare calls ∧ Represents g ∧ g.edges.length = 3 ∧ g.roots = [] ∧ g.leaves = ["b"] := by
  intro edge calls g
  have hbare : AddsBare calls := by
    intro n hn
    simp only [calls, List.mem_cons, Call.addNode.injEq, reduceCtorEq, false_or, or_false,
      List.not_mem_nil] at hn
    rcases hn with rfl | rfl | rfl <;> rfl
  exact ⟨hbare, represents_after .empty hbare, by decide +kernel, by decide +kernel,
    by decide +kernel⟩

end TagAtlas.DependencyGraph
