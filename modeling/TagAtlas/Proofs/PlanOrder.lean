import Mathlib
import TagAtlas.Plan.Basic
import TagAtlas.Proofs.GraphLevels
import TagAtlas.Proofs.InstallLayers

/-!
# The install order of a plan

A plan requires what a request leads to, so all that a required module waits for is required too.
Then the layer of a module is the length of the longest chain of needs below it, and the search for
levels gives the same number on any graph that has the same needs.
-/

namespace TagAtlas

open Relation

namespace InstallOrder

variable {g needs : Adjacency} {required requested : List String} {layers : List (List String)}
  {m d : String} {i k : Nat}

/-! ### What a request leads to -/

theorem mem_closure_iff :
    m ∈ closure needs requested ↔ ∃ r ∈ requested, ReflTransGen needs.Edge r m := by
  unfold closure
  rw [Dict.mem_sortedSet, Reachable.mem_walk_iff_of_covers (Dict.sortedSet_nodup _)]
  · exact fun t ht => Dict.mem_sortedSet.mpr (List.mem_append_right _ ht)
  · exact fun a b hab =>
      Dict.mem_sortedSet.mpr (List.mem_append_left _ (Adjacency.target_mem_nodes hab))

theorem closure_nodup (needs : Adjacency) (requested : List String) :
    (closure needs requested).Nodup := Dict.sortedSet_nodup _

def Closed (needs : Adjacency) (required : List String) : Prop :=
  ∀ m ∈ required, ∀ d, needs.Edge m d → d ∈ required

theorem closed_closure (needs : Adjacency) (requested : List String) :
    Closed needs (closure needs requested) := by
  intro m hm d hd
  obtain ⟨r, hr, hpath⟩ := mem_closure_iff.mp hm
  exact mem_closure_iff.mpr ⟨r, hr, hpath.tail hd⟩

theorem Closed.mem_of_path (h : Closed needs required) (hm : m ∈ required)
    (hpath : ReflTransGen needs.ProperEdge m d) : d ∈ required := by
  induction hpath with
  | refl => exact hm
  | @tail b c _ hbc ih => exact h b ih c hbc.1

theorem Closed.mem_awaited_iff (h : Closed needs required) (hm : m ∈ required) :
    d ∈ awaited needs required m ↔ needs.ProperEdge m d := by
  rw [InstallOrder.mem_awaited_iff]
  exact ⟨fun hd => ⟨hd.1, hd.2.2⟩, fun hd => ⟨hd.1, h m hm d hd.1, hd.2⟩⟩

/-! ### Layers as ranks -/

namespace Layered

theorem ranking_properEdge (h : Layered needs required [] layers) (hclosed : Closed needs required) :
    Ranking needs.ProperEdge (InLayer layers) where
  falls m i d hm hd :=
    have hr : m ∈ required := (h.mem_required hm.mem_flatten).1
    h.ranking.falls m i d hm ((hclosed.mem_awaited_iff hr).mpr hd)
  attained m i hm := by
    have hr : m ∈ required := (h.mem_required hm.mem_flatten).1
    obtain ⟨d, hd, hlayer⟩ := h.exists_awaited hm
    exact ⟨d, (hclosed.mem_awaited_iff hr).mp hd, hlayer⟩

/-- Layer after layer, and by name within a layer. -/
theorem pairwise_flatten {installed : List String} (h : Layered needs required installed layers) :
    layers.flatten.Pairwise fun a b =>
      ∃ i j, InLayer layers a i ∧ InLayer layers b j ∧ (i < j ∨ i = j ∧ a < b) := by
  induction h with
  | stop => exact .nil
  | @layer installed names later _ hsorted _ ih =>
    rw [List.flatten_cons, List.pairwise_append]
    refine ⟨?_, ?_, ?_⟩
    · refine hsorted.imp_of_mem fun ha hb hab => ?_
      exact ⟨0, 0, InLayer.zero_iff.mpr ha, InLayer.zero_iff.mpr hb, .inr ⟨rfl, hab⟩⟩
    · refine ih.imp fun hab => ?_
      obtain ⟨i, j, hi, hj, hlt⟩ := hab
      refine ⟨i + 1, j + 1, InLayer.succ_iff.mpr hi, InLayer.succ_iff.mpr hj, ?_⟩
      exact hlt.imp Nat.succ_lt_succ fun hsame => ⟨congrArg (· + 1) hsame.1, hsame.2⟩
    · intro a ha b hb
      obtain ⟨j, hj⟩ := InLayer.exists_of_mem_flatten hb
      exact ⟨0, j + 1, InLayer.zero_iff.mpr ha, InLayer.succ_iff.mpr hj, .inl j.succ_pos⟩

end Layered

/-! ### The same needs as a graph -/

/-- The needs of some modules, other than each module itself, as a graph. -/
def dependencies (needs : Adjacency) (required : List String) : Adjacency :=
  Dict.ofList (required.map fun m => (m, (needs.successors m).filter (· ≠ m)))

theorem find?_dependencies : (dependencies needs required).find? m =
    if m ∈ required then some ((needs.successors m).filter (· ≠ m)) else none :=
  Dict.find?_ofList_map required _ m

theorem edge_dependencies_iff :
    (dependencies needs required).Edge m d ↔ m ∈ required ∧ needs.ProperEdge m d := by
  rw [Adjacency.edge_iff, find?_dependencies]
  by_cases hm : m ∈ required <;> simp [hm, Adjacency.ProperEdge, Adjacency.Edge]

/-- Whether two graphs have the same edges from some nodes, loops apart. -/
def SameNeeds (g needs : Adjacency) (required : List String) : Prop :=
  ∀ m ∈ required, ∀ d, g.ProperEdge m d ↔ needs.ProperEdge m d

theorem sameNeeds_dependencies : SameNeeds (dependencies needs required) needs required := by
  intro m hm d
  unfold Adjacency.ProperEdge
  rw [edge_dependencies_iff]
  exact ⟨fun h => h.1.2, fun h => ⟨⟨hm, h⟩, h.2⟩⟩

namespace SameNeeds

theorem properPath (h : SameNeeds g needs required) (hclosed : Closed needs required)
    (hm : m ∈ required) (hpath : ReflTransGen g.ProperEdge m d) :
    ReflTransGen needs.ProperEdge m d := by
  induction hpath with
  | refl => exact .refl
  | @tail b c _ hbc ih => exact ih.tail ((h b (hclosed.mem_of_path hm ih) c).mp hbc)

/-- Levels on such a graph fall along needs, because no need leads back. -/
theorem ranking_levels (h : SameNeeds g needs required) (hclosed : Closed needs required)
    (hacyclic : ∀ m ∈ required, ¬ TransGen needs.ProperEdge m m) :
    Ranking needs.ProperEdge fun m k => m ∈ required ∧ g.levels.find? m = some k where
  falls m k d hm hd := by
    have hedge : g.Edge m d := ((h m hm.1 d).mpr hd).1
    have hr : d ∈ required := hclosed m hm.1 d hd.1
    have hback : ¬ ReflTransGen g.Edge d m := fun hpath =>
      hacyclic m hm.1 (.head' hd (h.properPath hclosed hr (Adjacency.properPath hpath)))
    obtain ⟨j, hj, hlt⟩ := Adjacency.level_lt_of_edge hedge hback hm.2
    exact ⟨j, ⟨hr, hj⟩, hlt⟩
  attained m k hm := by
    obtain ⟨d, hd, hlevel⟩ := Adjacency.exists_level_below hm.2
    have hne : d ≠ m := by
      rintro rfl
      have := hm.2.symm.trans hlevel
      simp at this
    have hproper : needs.ProperEdge m d := (h m hm.1 d).mp ⟨hd, hne⟩
    exact ⟨d, hproper, hclosed m hm.1 d hproper.1, hlevel⟩

end SameNeeds

end InstallOrder

namespace Plan

open InstallOrder

variable {rules : RuleTable} {names required order : List String} {plan : Plan} {m d : String}
  {i : Nat}

def layersOf (rules : RuleTable) (required : List String) : List (List String) :=
  (layers rules.needs required (counters rules.needs required)).1

def stuckOf (rules : RuleTable) (required : List String) : List String :=
  (layers rules.needs required (counters rules.needs required)).2.keys

theorem orderOf_eq (rules : RuleTable) (required : List String) :
    orderOf rules required = if stuckOf rules required = [] then .ok (layersOf rules required).flatten
      else .error (.circularDependency (stuckOf rules required)) := by
  unfold orderOf layersOf stuckOf
  generalize layers rules.needs required (counters rules.needs required) = out
  obtain ⟨found, stuck⟩ := out
  simp only [Dict.isEmpty, Dict.keys, List.map_eq_nil_iff, List.isEmpty_iff]

theorem layered_layersOf (rules : RuleTable) (hn : required.Nodup) :
    Layered rules.needs required [] (layersOf rules required) :=
  (layers_spec hn counting_counters).1

theorem mem_stuckOf_iff (hn : required.Nodup) :
    m ∈ stuckOf rules required ↔ m ∈ required ∧ m ∉ (layersOf rules required).flatten := by
  have hstart : Counting rules.needs required [] (counters rules.needs required) :=
    counting_counters
  have hcount := (layers_spec hn hstart).2.1 m
  unfold stuckOf layersOf
  rw [Dict.mem_keys_iff, Dict.contains, hcount]
  split
  next h => simpa using h
  next h => simpa using h

/-- All that is known of a plan that a request has. -/
theorem resolve_eq_ok (h : resolve rules names = .ok plan) :
    plan.required = closure rules.needs (requestedNames names) ∧
      plan.order = (layersOf rules plan.required).flatten ∧ stuckOf rules plan.required = [] := by
  simp only [resolve, orderOf_eq] at h
  split at h
  next hstuck =>
    cases h
    exact ⟨rfl, rfl, hstuck⟩
  next => cases h

theorem mem_requestedNames_iff :
    m ∈ requestedNames names ↔ m ≠ "" ∧ ∃ n ∈ names, Text.trimmed n = m := by
  unfold requestedNames
  rw [List.mem_eraseDups, List.mem_filter, List.mem_map]
  simp [and_comm]

theorem position?_lt_position? {r : String → String → Prop}
    (hsorted : plan.order.Pairwise r) (hd : d ∈ plan.order) (hm : m ∈ plan.order) (hne : d ≠ m)
    (hnot : ¬ r m d) :
    ∃ i j, plan.position? d = some i ∧ plan.position? m = some j ∧ i < j := by
  obtain ⟨i, hi⟩ := Option.isSome_iff_exists.mp (List.isSome_idxOf?.mpr hd)
  obtain ⟨j, hj⟩ := Option.isSome_iff_exists.mp (List.isSome_idxOf?.mpr hm)
  obtain ⟨hil, hid, _⟩ := List.idxOf?_eq_some_iff.mp hi
  obtain ⟨hjl, hjm, _⟩ := List.idxOf?_eq_some_iff.mp hj
  refine ⟨i, j, hi, hj, ?_⟩
  rcases Nat.lt_trichotomy i j with hlt | rfl | hlt
  · exact hlt
  · exact absurd (hid.symm.trans hjm) hne
  · have hr := List.pairwise_iff_getElem.mp hsorted j i hjl hil hlt
    exact absurd (hjm ▸ hid ▸ hr) hnot

/-- What is known of the layers of a plan that a request has. -/
structure Solved (rules : RuleTable) (plan : Plan) : Prop where
  closed : Closed rules.needs plan.required
  layered : Layered rules.needs plan.required [] (layersOf rules plan.required)
  order : plan.order = (layersOf rules plan.required).flatten
  mem_order_iff : ∀ m, m ∈ plan.order ↔ m ∈ plan.required

theorem solved_of_resolve (h : resolve rules names = .ok plan) : Solved rules plan := by
  obtain ⟨hrequired, horder, hstuck⟩ := resolve_eq_ok h
  have hn : plan.required.Nodup := hrequired ▸ closure_nodup _ _
  have hlayered := layered_layersOf rules hn
  refine ⟨hrequired ▸ closed_closure _ _, hlayered, horder, fun m => ?_⟩
  rw [horder]
  refine ⟨fun hm => (hlayered.mem_required hm).1, fun hm => ?_⟩
  by_contra hnot
  have : m ∈ stuckOf rules plan.required := (mem_stuckOf_iff hn).mpr ⟨hm, hnot⟩
  simp [hstuck] at this

namespace Solved

theorem ranking (h : Solved rules plan) :
    Ranking rules.needs.ProperEdge (InLayer (layersOf rules plan.required)) :=
  h.layered.ranking_properEdge h.closed

theorem exists_layer (h : Solved rules plan) (hm : m ∈ plan.required) :
    ∃ i, InLayer (layersOf rules plan.required) m i :=
  InLayer.exists_of_mem_flatten (h.order ▸ (h.mem_order_iff m).mpr hm)

theorem acyclic (h : Solved rules plan) (hm : m ∈ plan.required) :
    ¬ TransGen rules.needs.ProperEdge m m := by
  obtain ⟨i, hi⟩ := h.exists_layer hm
  exact h.ranking.not_cyclic hi

theorem increasing (h : Solved rules plan) : plan.order.Pairwise fun a b =>
    ∃ i j, LongestChain rules.needs.ProperEdge a i ∧ LongestChain rules.needs.ProperEdge b j ∧
      (i < j ∨ i = j ∧ a < b) := by
  rw [h.order]
  refine h.layered.pairwise_flatten.imp fun hab => ?_
  obtain ⟨i, j, hi, hj, hlt⟩ := hab
  exact ⟨i, j, h.ranking.longestChain hi, h.ranking.longestChain hj, hlt⟩

theorem precedes (h : Solved rules plan) (hm : m ∈ plan.order)
    (hneed : rules.needs.ProperEdge m d) :
    ∃ i j, plan.position? d = some i ∧ plan.position? m = some j ∧ i < j := by
  have hr : m ∈ plan.required := (h.mem_order_iff m).mp hm
  have hd : d ∈ plan.order := (h.mem_order_iff d).mpr (h.closed m hr d hneed.1)
  refine position?_lt_position? h.increasing hd hm hneed.2 ?_
  -- were the module first, its chain would not be longer than the one of what it needs
  rintro ⟨i, j, hi, hj, hlt⟩
  obtain ⟨k, hk⟩ := h.exists_layer hr
  obtain ⟨l, hl, hless⟩ := h.ranking.falls m k d hk hneed
  have hik : i = k := hi.unique (h.ranking.longestChain hk)
  have hjl : j = l := hj.unique (h.ranking.longestChain hl)
  omega

theorem level_eq (h : Solved rules plan) {g : Adjacency}
    (hsame : SameNeeds g rules.needs plan.required) (hm : m ∈ plan.required) (hnode : m ∈ g.nodes)
    (hi : InLayer (layersOf rules plan.required) m i) : g.levels.find? m = some i := by
  have hcontains : g.levels.contains m = true :=
    Adjacency.contains_levels_iff.mpr (Adjacency.mem_nodes_iff.mp hnode)
  obtain ⟨k, hk⟩ := Option.isSome_iff_exists.mp hcontains
  have hlongest : LongestChain rules.needs.ProperEdge m k :=
    (hsame.ranking_levels h.closed fun _ => h.acyclic).longestChain ⟨hm, hk⟩
  rw [hk, hlongest.unique (h.ranking.longestChain hi)]

end Solved

/-- A name of the request needs the module, directly or not, or is its name. -/
def Requires (rules : RuleTable) (names : List String) (m : String) : Prop :=
  ∃ n ∈ names, Text.trimmed n ≠ "" ∧ ReflTransGen rules.needs.Edge (Text.trimmed n) m

/-- An order in which the modules that a request leads to can be installed. -/
structure IsInstallOrder (rules : RuleTable) (names : List String) (plan : Plan) : Prop where
  required : ∀ m, m ∈ plan.required ↔ Requires rules names m
  perm : plan.order.Perm plan.required
  nodup : plan.order.Nodup
  /-- By the longest chain of needs below a module, then by name. -/
  increasing : plan.order.Pairwise fun a b =>
    ∃ i j, LongestChain rules.needs.ProperEdge a i ∧ LongestChain rules.needs.ProperEdge b j ∧
      (i < j ∨ i = j ∧ a < b)
  precedes : ∀ m ∈ plan.order, ∀ d ∈ rules.needsOf m, d ≠ m →
    ∃ i j, plan.position? d = some i ∧ plan.position? m = some j ∧ i < j
  layers : plan.order = (layersOf rules plan.required).flatten
  /-- The layer of a module, the longest chain below it and its level are one number. -/
  levels : ∀ m ∈ plan.required, ∃ i, InLayer (layersOf rules plan.required) m i ∧
    LongestChain rules.needs.ProperEdge m i ∧
    (dependencies rules.needs plan.required).levels.find? m = some i ∧
    (m ∈ rules.needs.nodes → rules.needs.levels.find? m = some i)

theorem mem_closure_requestedNames_iff :
    m ∈ closure rules.needs (requestedNames names) ↔ Requires rules names m := by
  rw [mem_closure_iff, Requires]
  simp only [mem_requestedNames_iff]
  constructor
  · rintro ⟨r, ⟨hr, n, hn, rfl⟩, hpath⟩
    exact ⟨n, hn, hr, hpath⟩
  · rintro ⟨n, hn, hne, hpath⟩
    exact ⟨_, ⟨hne, n, hn, rfl⟩, hpath⟩

theorem isInstallOrder_of_resolve (h : resolve rules names = .ok plan) :
    IsInstallOrder rules names plan := by
  have hsolved := solved_of_resolve h
  have hrequired := (resolve_eq_ok h).1
  have hn : plan.required.Nodup := hrequired ▸ closure_nodup _ _
  have hnodup : plan.order.Nodup := hsolved.order ▸ hsolved.layered.nodup_flatten
  constructor
  case required => exact fun m => hrequired ▸ mem_closure_requestedNames_iff
  case perm => exact (List.perm_ext_iff_of_nodup hnodup hn).mpr hsolved.mem_order_iff
  case nodup => exact hnodup
  case increasing => exact hsolved.increasing
  case precedes => exact fun m hm d hd hne => hsolved.precedes hm ⟨hd, hne⟩
  case layers => exact hsolved.order
  case levels =>
    intro m hm
    obtain ⟨i, hi⟩ := hsolved.exists_layer hm
    have hnode : m ∈ (dependencies rules.needs plan.required).nodes := by
      refine Adjacency.mem_nodes_iff.mpr (.inl ?_)
      simp [Dict.contains, find?_dependencies, hm]
    exact ⟨i, hi, hsolved.ranking.longestChain hi,
      hsolved.level_eq sameNeeds_dependencies hm hnode hi,
      fun hneeds => hsolved.level_eq (fun _ _ _ => Iff.rfl) hm hneeds hi⟩

/-- Repeated needs, a module that needs itself, a name without rules, and a cycle elsewhere. -/
theorem isInstallOrder_of_tangled_rules :
    let rules : RuleTable := ⟨Dict.ofList [("app", ["store", "app", "log", "store"]),
      ("store", ["log", "store"]), ("left", ["right"]), ("right", ["left"])], .empty, .empty⟩
    ∃ plan, resolve rules [" app ", "zoo", "log", ""] = .ok plan ∧
      plan.order = ["log", "zoo", "store", "app"] ∧
      IsInstallOrder rules [" app ", "zoo", "log", ""] plan := by
  intro rules
  have hresolve : ∃ plan, resolve rules [" app ", "zoo", "log", ""] = .ok plan ∧
      plan.order = ["log", "zoo", "store", "app"] := ⟨_, by cbv, by cbv⟩
  obtain ⟨plan, hplan, horder⟩ := hresolve
  exact ⟨plan, hplan, horder, isInstallOrder_of_resolve hplan⟩

end Plan

end TagAtlas
