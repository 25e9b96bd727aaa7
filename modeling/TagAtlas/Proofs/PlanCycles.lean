import TagAtlas.Proofs.GraphCycles
import TagAtlas.Proofs.PlanOrder

/-!
# Requests without an install order

A module that is in no layer waits for another such module, and among finitely many modules that
leads to a cycle. A module that leads to a cycle is in no layer, because layers fall along needs.
So the modules that no layer holds are those that lead to a cycle through two modules or more.
-/

namespace TagAtlas.Plan

open Relation InstallOrder

variable {rules : RuleTable} {names required : List String} {m : String}

/-- A cycle of needs through at least two modules. -/
def IsTangle (rules : RuleTable) (c : List String) : Prop := rules.needs.IsCycle c ∧ 2 ≤ c.length

theorem exists_tangle_of_stuck (hn : required.Nodup) (hclosed : Closed rules.needs required)
    (hm : m ∈ stuckOf rules required) :
    ∃ c, IsTangle rules c ∧ ∃ x ∈ c, ReflTransGen rules.needs.Edge m x := by
  have hstep : ∀ a ∈ stuckOf rules required,
      ∃ b ∈ stuckOf rules required, rules.needs.ProperEdge a b := by
    intro a ha
    obtain ⟨hr, hnot⟩ := (mem_stuckOf_iff hn).mp ha
    obtain ⟨b, hb, hbnot⟩ := (layered_layersOf rules hn).exists_stuck hr hnot
    have hproper : rules.needs.ProperEdge a b := (hclosed.mem_awaited_iff hr).mp hb
    exact ⟨b, (mem_stuckOf_iff hn).mpr ⟨hclosed a hr b hproper.1, hbnot⟩, hproper⟩
  obtain ⟨x, hpath, hcycle⟩ := exists_cycle_of_steps hstep hm
  obtain ⟨c, hc, hlen, hx⟩ := Adjacency.exists_isCycle_of_properCyclic hcycle
  exact ⟨c, ⟨hc, hlen⟩, x, hx, Adjacency.path_of_properPath hpath⟩

theorem stuck_of_tangle (hn : required.Nodup) (hclosed : Closed rules.needs required)
    (hm : m ∈ required) {c : List String} (hc : IsTangle rules c) {x : String} (hx : x ∈ c)
    (hpath : ReflTransGen rules.needs.Edge m x) : m ∈ stuckOf rules required := by
  refine (mem_stuckOf_iff hn).mpr ⟨hm, fun hlayer => ?_⟩
  have hrank := (layered_layersOf rules hn).ranking_properEdge hclosed
  obtain ⟨i, hi⟩ := InLayer.exists_of_mem_flatten hlayer
  obtain ⟨j, hj⟩ := hrank.exists_rank hi (Adjacency.properPath hpath)
  exact hrank.not_cyclic hj (hc.1.properCyclic hc.2 hx)

theorem mem_stuckOf_iff_tangle (hn : required.Nodup) (hclosed : Closed rules.needs required) :
    m ∈ stuckOf rules required ↔
      m ∈ required ∧ ∃ c, IsTangle rules c ∧ ∃ x ∈ c, ReflTransGen rules.needs.Edge m x := by
  constructor
  · exact fun hm => ⟨((mem_stuckOf_iff hn).mp hm).1, exists_tangle_of_stuck hn hclosed hm⟩
  · rintro ⟨hm, c, hc, x, hx, hpath⟩
    exact stuck_of_tangle hn hclosed hm hc hx hpath

theorem stuckOf_pairwise (rules : RuleTable) (required : List String) :
    (stuckOf rules required).Pairwise (· < ·) := Dict.ordered _

/-- Something is in no layer exactly when a cycle is among the required modules. -/
theorem stuckOf_ne_nil_iff (hn : required.Nodup) (hclosed : Closed rules.needs required) :
    stuckOf rules required ≠ [] ↔ ∃ c, IsTangle rules c ∧ ∀ x ∈ c, x ∈ required := by
  constructor
  · intro hne
    obtain ⟨m, hm⟩ := List.exists_mem_of_ne_nil _ hne
    obtain ⟨hr, c, hc, x, hx, hpath⟩ := (mem_stuckOf_iff_tangle hn hclosed).mp hm
    refine ⟨c, hc, fun y hy => ?_⟩
    exact hclosed.mem_of_path hr (Adjacency.properPath (hpath.trans (hc.1.path hx hy)))
  · rintro ⟨c, hc, hall⟩
    obtain ⟨x, hx⟩ := List.exists_mem_of_ne_nil c hc.1.ne_nil
    exact List.ne_nil_of_mem (stuck_of_tangle hn hclosed (hall x hx) hc hx .refl)

theorem resolve_eq_error_iff {e : Failure} :
    resolve rules names = .error e ↔
      stuckOf rules (closure rules.needs (requestedNames names)) ≠ [] ∧
        e = .circularDependency (stuckOf rules (closure rules.needs (requestedNames names))) := by
  simp only [resolve, orderOf_eq]
  split
  next h => simp [h, Except.map]
  next h => simp [h, Except.map, eq_comm]

/-- What a request answers about cycles of needs, and how the counters come to that. -/
structure IsCycleVerdict (rules : RuleTable) (names : List String) : Prop where
  fails_iff : (∃ ms, resolve rules names = .error (.circularDependency ms)) ↔
    ∃ c, IsTangle rules c ∧ ∀ m ∈ c, Requires rules names m
  modules : ∀ ms, resolve rules names = .error (.circularDependency ms) → ms.Pairwise (· < ·) ∧
    ∀ m, m ∈ ms ↔ Requires rules names m ∧
      ∃ c, IsTangle rules c ∧ ∃ x ∈ c, ReflTransGen rules.needs.Edge m x
  onlyFailure : ∀ e, resolve rules names = .error e → ∃ ms, e = .circularDependency ms
  /-- The counters take these changes, and none lowers a counter that is not above zero. -/
  positive :
    let required := closure rules.needs (requestedNames names)
    let changes := (layersOf rules required).flatten.flatMap (changesOf rules.needs required)
    (layers rules.needs required (counters rules.needs required)).2 =
        changes.foldl Change.apply (counters rules.needs required) ∧
      Positive (counters rules.needs required) changes

theorem isCycleVerdict (rules : RuleTable) (names : List String) : IsCycleVerdict rules names := by
  have hn := closure_nodup rules.needs (requestedNames names)
  have hclosed := closed_closure rules.needs (requestedNames names)
  have hmem : ∀ m, m ∈ closure rules.needs (requestedNames names) ↔ Requires rules names m :=
    fun m => mem_closure_requestedNames_iff
  constructor
  case fails_iff =>
    simp only [← hmem]
    rw [← stuckOf_ne_nil_iff hn hclosed]
    simp only [resolve_eq_error_iff]
    exact ⟨fun ⟨ms, hne, _⟩ => hne, fun hne => ⟨_, hne, rfl⟩⟩
  case modules =>
    intro ms h
    obtain rfl : ms = stuckOf rules (closure rules.needs (requestedNames names)) := by
      simpa using (resolve_eq_error_iff.mp h).2
    refine ⟨stuckOf_pairwise _ _, fun m => ?_⟩
    rw [← hmem, mem_stuckOf_iff_tangle hn hclosed]
  case onlyFailure => exact fun e h => ⟨_, (resolve_eq_error_iff.mp h).2⟩
  case positive =>
    have hstart : Counting rules.needs (closure rules.needs (requestedNames names)) []
        (counters rules.needs (closure rules.needs (requestedNames names))) := counting_counters
    exact ⟨layers_snd_eq _ _ _, (layers_spec hn hstart).2.2⟩

end TagAtlas.Plan
