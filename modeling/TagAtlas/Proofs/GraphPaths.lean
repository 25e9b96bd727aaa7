import Mathlib.Data.Fintype.Card
import Mathlib.Data.List.Chain
import Mathlib.Data.Set.Finite.Basic
import Mathlib.Order.Bounds.Basic
import TagAtlas.Proofs.GraphReachability

/-!
# Paths and chains

A rank that falls along every step, and falls by one along some step unless it is zero, is the
length of the longest chain of steps. A finite set of nodes each of which has a step to another one
of them leads to a cycle. The path of a depth-first search is a trail: its nodes are distinct, each
has an edge to the next, and none of them is still to be met.
-/

namespace TagAtlas

open Relation

/-- No chain of steps from the node is longer than `k`, and one has this length. -/
def LongestChain (r : String → String → Prop) (a : String) (k : Nat) : Prop :=
  IsGreatest {n | ∃ rest : List String, (a :: rest).IsChain r ∧ rest.length = n} k

structure Ranking (r : String → String → Prop) (rank : String → Nat → Prop) : Prop where
  falls : ∀ a i b, rank a i → r a b → ∃ j, rank b j ∧ j < i
  attained : ∀ a i, rank a (i + 1) → ∃ b, r a b ∧ rank b i

variable {r : String → String → Prop} {rank : String → Nat → Prop} {a b : String} {i k : Nat}

theorem LongestChain.unique (hi : LongestChain r a i) (hk : LongestChain r a k) : i = k :=
  IsGreatest.unique hi hk

namespace Ranking

theorem length_le (h : Ranking r rank) {rest : List String} (ha : rank a i)
    (hc : (a :: rest).IsChain r) : rest.length ≤ i := by
  induction rest generalizing a i with
  | nil => simp
  | cons b rest ih =>
    obtain ⟨hab, hrest⟩ := List.isChain_cons_cons.mp hc
    obtain ⟨j, hb, hj⟩ := h.falls a i b ha hab
    have := ih hb hrest
    simp only [List.length_cons]
    omega

theorem exists_chain (h : Ranking r rank) (ha : rank a i) :
    ∃ rest : List String, (a :: rest).IsChain r ∧ rest.length = i := by
  induction i generalizing a with
  | zero => exact ⟨[], by simp⟩
  | succ i ih =>
    obtain ⟨b, hab, hb⟩ := h.attained a i ha
    obtain ⟨rest, hrest, hlen⟩ := ih hb
    exact ⟨b :: rest, List.isChain_cons_cons.mpr ⟨hab, hrest⟩, by simp [hlen]⟩

theorem longestChain (h : Ranking r rank) (ha : rank a i) : LongestChain r a i := by
  refine ⟨h.exists_chain ha, ?_⟩
  rintro n ⟨rest, hrest, rfl⟩
  exact h.length_le ha hrest

theorem falls_along (h : Ranking r rank) (ha : rank a i) (hab : TransGen r a b) :
    ∃ j, rank b j ∧ j < i := by
  induction hab with
  | @single b hab => exact h.falls a i b ha hab
  | @tail b c _ hbc ih =>
    obtain ⟨j, hb, hj⟩ := ih
    obtain ⟨l, hc, hl⟩ := h.falls b j c hb hbc
    exact ⟨l, hc, by omega⟩

theorem exists_rank (h : Ranking r rank) (ha : rank a i) (hab : ReflTransGen r a b) :
    ∃ j, rank b j := by
  rcases reflTransGen_iff_eq_or_transGen.mp hab with rfl | hab
  · exact ⟨i, ha⟩
  · obtain ⟨j, hb, _⟩ := h.falls_along ha hab
    exact ⟨j, hb⟩

/-- Ranks need not be unique, but each is the length of the longest chain. -/
theorem not_cyclic (h : Ranking r rank) (ha : rank a i) : ¬ TransGen r a a := by
  intro hcycle
  obtain ⟨j, hj, hlt⟩ := h.falls_along ha hcycle
  have := (h.longestChain ha).unique (h.longestChain hj)
  omega

end Ranking

theorem path_of_isChain {l : List String} (h : (a :: l).IsChain r) (hb : b ∈ a :: l) :
    ReflTransGen r a b := by
  induction l generalizing a with
  | nil =>
    obtain rfl := List.mem_singleton.mp hb
    exact .refl
  | cons c l ih =>
    obtain ⟨hac, hrest⟩ := List.isChain_cons_cons.mp h
    rcases List.mem_cons.mp hb with rfl | hb
    · exact .refl
    · exact .head hac (ih hrest hb)

/-- Steps that stay among finitely many nodes come back to one of them. -/
theorem exists_cycle_of_steps {nodes : List String} (hstep : ∀ a ∈ nodes, ∃ b ∈ nodes, r a b)
    (ha : a ∈ nodes) : ∃ c, ReflTransGen r a c ∧ TransGen r c c := by
  by_contra hnone
  have hfree : ∀ c, ReflTransGen r a c → ¬ TransGen r c c := fun c hac hcc => hnone ⟨c, hac, hcc⟩
  let Met := {x : String // x ∈ nodes ∧ ReflTransGen r a x}
  have : Finite Met := ((List.finite_toSet nodes).subset fun x hx => hx.1)
  let below : Met → Met → Prop := fun x y => TransGen r y.1 x.1
  have : IsTrans Met below := ⟨fun x y z hxy hyz => hyz.trans hxy⟩
  have : Std.Irrefl below := ⟨fun x => hfree x.1 x.2.2⟩
  have hwf : WellFounded below := Finite.wellFounded_of_trans_of_irrefl below
  -- a lowest node that is met would still have a step
  have hnot : ∀ _ : Met, False := by
    intro x
    induction x using hwf.induction with
    | _ x ih =>
      obtain ⟨y, hy, hxy⟩ := hstep x.1 x.2.1
      exact ih ⟨y, hy, x.2.2.tail hxy⟩ (.single hxy)
  exact hnot ⟨a, ha, .refl⟩

namespace Adjacency

/-- No path leads from a node back to it. -/
def Acyclic (g : Adjacency) : Prop := ∀ id, ¬ TransGen g.Edge id id

variable {g : Adjacency} {fresh ids : List String} {v w x : String}

theorem edge_mem_keys (h : g.Edge v w) : v ∈ g.keys := by
  obtain ⟨ids, hf, _⟩ := edge_iff.mp h
  simp [Dict.mem_keys_iff, Dict.contains, hf]

theorem mem_nodes_iff : x ∈ g.nodes ↔ g.contains x = true ∨ ∃ n, g.Edge n x := by
  constructor
  · intro hx
    rcases List.mem_append.mp (Dict.mem_sortedSet.mp hx) with hk | hv
    · exact .inl (Dict.mem_keys_iff.mp hk)
    · obtain ⟨ids, hids, hxi⟩ := List.mem_flatten.mp hv
      obtain ⟨n, hn⟩ := Dict.mem_values_iff.mp hids
      exact .inr ⟨n, edge_iff.mpr ⟨ids, hn, hxi⟩⟩
  · rintro (hk | ⟨n, hn⟩)
    · exact Dict.mem_sortedSet.mpr (List.mem_append_left _ (Dict.mem_keys_iff.mpr hk))
    · exact target_mem_nodes hn

theorem source_mem_nodes (h : g.Edge v w) : v ∈ g.nodes :=
  mem_nodes_iff.mpr (.inl (Dict.mem_keys_iff.mp (edge_mem_keys h)))

theorem nodes_nodup (g : Adjacency) : g.nodes.Nodup := Dict.sortedSet_nodup _

def ProperEdge (g : Adjacency) (a b : String) : Prop := g.Edge a b ∧ b ≠ a

theorem path_of_properPath (h : ReflTransGen g.ProperEdge v w) : ReflTransGen g.Edge v w :=
  ReflTransGen.mono (fun _ _ hab => hab.1) _ _ h

/-- A path need not go through loops. -/
theorem properPath (h : ReflTransGen g.Edge v w) : ReflTransGen g.ProperEdge v w := by
  induction h with
  | refl => exact .refl
  | @tail b c _ hbc ih =>
    by_cases he : c = b
    · exact he ▸ ih
    · exact ih.tail ⟨hbc, he⟩

/-- A path of a search, last node first, beside the nodes that the search has not met. -/
structure Trail (g : Adjacency) (fresh ids : List String) : Prop where
  nodup : ids.Nodup
  edges : ids.IsChain fun a b => g.Edge b a
  freshNodup : fresh.Nodup
  met : ∀ id ∈ ids, id ∉ fresh

namespace Trail

theorem start (hn : fresh.Nodup) (hv : v ∉ fresh) : g.Trail fresh [v] where
  nodup := List.nodup_singleton v
  edges := .singleton v
  freshNodup := hn
  met := by simpa using hv

theorem leave (h : g.Trail fresh (v :: ids)) : g.Trail fresh ids where
  nodup := (List.nodup_cons.mp h.nodup).2
  edges := h.edges.tail
  freshNodup := h.freshNodup
  met id hid := h.met id (List.mem_cons_of_mem _ hid)

theorem enter (h : g.Trail fresh (v :: ids)) (hvw : g.Edge v w) (hw : w ∈ fresh) :
    g.Trail (fresh.erase w) (w :: v :: ids) where
  nodup := List.nodup_cons.mpr ⟨fun hm => h.met w hm hw, h.nodup⟩
  edges := List.isChain_cons_cons.mpr ⟨hvw, h.edges⟩
  freshNodup := h.freshNodup.erase w
  met id hid := by
    rcases List.mem_cons.mp hid with rfl | hid
    · exact h.freshNodup.not_mem_erase
    · exact fun hm => h.met id hid (List.mem_of_mem_erase hm)

theorem leads (h : g.Trail fresh (v :: ids)) (hx : x ∈ v :: ids) : ReflTransGen g.Edge x v := by
  induction ids generalizing v with
  | nil =>
    obtain rfl := List.mem_singleton.mp hx
    exact .refl
  | cons u ids ih =>
    rcases List.mem_cons.mp hx with rfl | hx
    · exact .refl
    · have huv : g.Edge u v := (List.isChain_cons_cons.mp h.edges).1
      exact (ih h.leave hx).tail huv

end Trail

end Adjacency

end TagAtlas
