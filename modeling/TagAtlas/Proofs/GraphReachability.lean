import Mathlib.Logic.Relation
import TagAtlas.Graph.Reachable
import TagAtlas.Proofs.DictContents

/-!
# The walk meets what paths lead to

The walk keeps a list of nodes that it may still meet. What it meets from some tasks on is exactly
what a path inside that list leads to from one of the tasks; no path is lost when a node is taken
off the list, because its successors become tasks at that moment. A start that is never on the list
costs no path to another node: where a path comes back to the start, it can begin anew there.
-/

namespace TagAtlas

open Relation

namespace Adjacency

def Edge (g : Adjacency) (a b : String) : Prop := b ∈ g.successors a

theorem edge_iff {g : Adjacency} {a b : String} :
    g.Edge a b ↔ ∃ ids, g.find? a = some ids ∧ b ∈ ids := by
  unfold Edge successors
  cases g.find? a <;> simp

theorem target_mem_nodes {g : Adjacency} {a b : String} (h : g.Edge a b) : b ∈ g.nodes := by
  obtain ⟨ids, hf, hb⟩ := edge_iff.mp h
  rw [nodes, Dict.mem_sortedSet]
  exact List.mem_append_right _ (List.mem_flatten.mpr ⟨ids, Dict.mem_values_iff.mpr ⟨a, hf⟩, hb⟩)

end Adjacency

namespace Reachable

def Within (g : Adjacency) (fresh : List String) (a b : String) : Prop := g.Edge a b ∧ b ∈ fresh

/-- A path inside the nodes that may still be met leads from a task to the node. -/
def Reached (g : Adjacency) (fresh tasks : List String) (x : String) : Prop :=
  ∃ t ∈ tasks, t ∈ fresh ∧ ReflTransGen (Within g fresh) t x

variable {g : Adjacency} {fresh tasks : List String} {id x : String}

theorem reached_cons_of_not_mem (h : id ∉ fresh) :
    Reached g fresh (id :: tasks) x ↔ Reached g fresh tasks x := by
  constructor
  · rintro ⟨t, ht, hf, hp⟩
    rcases List.mem_cons.mp ht with rfl | ht
    · exact absurd hf h
    · exact ⟨t, ht, hf, hp⟩
  · rintro ⟨t, ht, hf, hp⟩
    exact ⟨t, List.mem_cons_of_mem _ ht, hf, hp⟩

/-- Cut at its last visit to the node that is taken off, a path goes on from a successor. -/
theorem reached_cons_of_mem (hn : fresh.Nodup) (h : id ∈ fresh) :
    Reached g fresh (id :: tasks) x ↔
      x = id ∨ Reached g (fresh.erase id) (tasks ++ g.successors id) x := by
  have herase : ∀ y, y ∈ fresh.erase id ↔ y ≠ id ∧ y ∈ fresh := fun y => hn.mem_erase_iff
  constructor
  · rintro ⟨t, ht, hf, hp⟩
    -- on the path from its start; each visit to `id` lets it begin anew at a successor
    induction hp with
    | refl =>
      by_cases he : t = id
      · exact .inl he
      · have hm : t ∈ tasks := (List.mem_cons.mp ht).resolve_left he
        exact .inr ⟨t, List.mem_append_left _ hm, (herase t).mpr ⟨he, hf⟩, .refl⟩
    | @tail y z _ hyz ih =>
      by_cases hz : z = id
      · exact .inl hz
      · have hzf : z ∈ fresh.erase id := (herase z).mpr ⟨hz, hyz.2⟩
        rcases ih with rfl | ⟨s, hs, hsf, hsy⟩
        · exact .inr ⟨z, List.mem_append_right _ hyz.1, hzf, .refl⟩
        · exact .inr ⟨s, hs, hsf, hsy.tail ⟨hyz.1, hzf⟩⟩
  · rintro (rfl | ⟨s, hs, hsf, hp⟩)
    · exact ⟨x, List.mem_cons_self, h, .refl⟩
    · have hmono : ReflTransGen (Within g fresh) s x :=
        ReflTransGen.mono (fun a b hab => ⟨hab.1, List.mem_of_mem_erase hab.2⟩) _ _ hp
      have hs' : s ∈ fresh := List.mem_of_mem_erase hsf
      rcases List.mem_append.mp hs with hs | hs
      · exact ⟨s, List.mem_cons_of_mem _ hs, hs', hmono⟩
      · exact ⟨id, List.mem_cons_self, h, .head ⟨hs, hs'⟩ hmono⟩

theorem mem_walk_iff (hn : fresh.Nodup) : x ∈ walk g fresh tasks ↔ Reached g fresh tasks x := by
  fun_induction walk g fresh tasks with
  | case1 fresh => simp [Reached]
  | case2 fresh id tasks hid ih =>
    rw [List.mem_cons, ih (hn.erase id), reached_cons_of_mem hn hid]
  | case3 fresh id tasks hid ih => rw [ih hn, reached_cons_of_not_mem hid]

/-- When all tasks and all targets of edges may be met, every path counts. -/
theorem mem_walk_iff_of_covers (hn : fresh.Nodup) (htasks : ∀ t ∈ tasks, t ∈ fresh)
    (hedges : ∀ a b, g.Edge a b → b ∈ fresh) :
    x ∈ walk g fresh tasks ↔ ∃ t ∈ tasks, ReflTransGen g.Edge t x := by
  rw [mem_walk_iff hn]
  constructor
  · rintro ⟨t, ht, _, hp⟩
    exact ⟨t, ht, ReflTransGen.mono (fun _ _ hab => hab.1) _ _ hp⟩
  · rintro ⟨t, ht, hp⟩
    exact ⟨t, ht, htasks t ht, ReflTransGen.mono (fun a b hab => ⟨hab, hedges a b hab⟩) _ _ hp⟩

end Reachable

namespace Adjacency

variable {g : Adjacency} {start x : String}

theorem mem_nodes_erase_iff : x ∈ g.nodes.erase start ↔ x ≠ start ∧ x ∈ g.nodes :=
  (Dict.sortedSet_nodup _).mem_erase_iff

theorem path_of_reached (h : Reachable.Reached g (g.nodes.erase start) (g.successors start) x) :
    x ≠ start ∧ TransGen g.Edge start x := by
  obtain ⟨t, ht, hfresh, hpath⟩ := h
  induction hpath with
  | refl => exact ⟨(mem_nodes_erase_iff.mp hfresh).1, .single ht⟩
  | tail _ hstep ih => exact ⟨(mem_nodes_erase_iff.mp hstep.2).1, ih.2.tail hstep.1⟩

/-- Cut at its last visit to the start, a path keeps away from the start. -/
theorem eq_start_or_reached (hpath : TransGen g.Edge start x) :
    x = start ∨ Reachable.Reached g (g.nodes.erase start) (g.successors start) x := by
  have hnode : ∀ y z, g.Edge y z → z ≠ start → z ∈ g.nodes.erase start := fun _ _ hedge hne =>
    mem_nodes_erase_iff.mpr ⟨hne, target_mem_nodes hedge⟩
  induction hpath with
  | @single y hedge =>
    by_cases hback : y = start
    · exact .inl hback
    · exact .inr ⟨y, hedge, hnode _ _ hedge hback, .refl⟩
  | @tail y z _ hedge ih =>
    by_cases hback : z = start
    · exact .inl hback
    · have hfresh := hnode _ _ hedge hback
      rcases ih with rfl | ⟨t, ht, hmet, hpath⟩
      · exact .inr ⟨z, hedge, hfresh, .refl⟩
      · exact .inr ⟨t, ht, hmet, hpath.tail ⟨hedge, hfresh⟩⟩

theorem mem_reachable_iff : x ∈ g.reachable start ↔ x ≠ start ∧ TransGen g.Edge start x := by
  have hn : (g.nodes.erase start).Nodup := (Dict.sortedSet_nodup _).erase start
  rw [reachable, Dict.mem_sortedSet, Reachable.mem_walk_iff hn]
  exact ⟨path_of_reached, fun h => (eq_start_or_reached h.2).resolve_left h.1⟩

/-- The ids that are not the start and that a path of at least one edge leads to from there, each
once, in increasing order. -/
structure IsReach (g : Adjacency) (start : String) (ids : List String) : Prop where
  increasing : ids.Pairwise (· < ·)
  mem_iff : ∀ x, x ∈ ids ↔ x ≠ start ∧ TransGen g.Edge start x

/-- Cycles, edges to undeclared ids, repeated successors and an undeclared start are all allowed. -/
theorem isReach_reachable (g : Adjacency) (start : String) :
    g.IsReach start (g.reachable start) where
  increasing := Dict.sortedSet_pairwise _
  mem_iff _ := mem_reachable_iff

end Adjacency

end TagAtlas
