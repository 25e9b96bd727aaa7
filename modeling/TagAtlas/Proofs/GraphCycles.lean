import Mathlib.Data.List.Lex
import Mathlib.Data.List.TakeWhile
import TagAtlas.Graph.Cycles
import TagAtlas.Proofs.GraphPaths

/-!
# The cycles that searches close

The path of a search is a trail, so an edge back to it closes a cycle of distinct nodes. The search
from a node meets all that it leads to while the node itself stays on the path. So every edge into
the node from something that it leads to is an edge back to the path, and closes a cycle.
-/

namespace TagAtlas

open Relation

namespace Cycles

/-- One id comes right after another, where the first id comes after the last one. -/
def Follows (c : List String) (a b : String) : Prop :=
  [a, b] <:+: c ∨ c.getLast? = some a ∧ c.head? = some b

variable {a b x : String} {c l m : List String}

theorem pair_infix_cons : [a, b] <:+: x :: l ↔ a = x ∧ l.head? = some b ∨ [a, b] <:+: l := by
  rw [List.infix_cons_iff]
  cases l with
  | nil => simp
  | cons y l => simp [List.cons_prefix_cons, eq_comm]

theorem pair_infix_concat :
    [a, b] <:+: l ++ [x] ↔ [a, b] <:+: l ∨ l.getLast? = some a ∧ b = x := by
  rw [List.infix_concat_iff, or_comm]
  refine or_congr_right ?_
  constructor
  · rintro ⟨t, ht⟩
    have hcut : (t ++ [a]) ++ [b] = l ++ [x] := by simpa using ht
    obtain ⟨rfl, hb⟩ := List.append_inj' hcut rfl
    simpa using hb
  · rintro ⟨hlast, rfl⟩
    obtain ⟨t, rfl⟩ := List.getLast?_eq_some_iff.mp hlast
    exact ⟨t, by simp⟩

theorem follows_cons_iff_concat : Follows (x :: l) a b ↔ Follows (l ++ [x]) a b := by
  unfold Follows
  rw [pair_infix_cons, pair_infix_concat]
  cases l with
  | nil => grind
  | cons y l =>
    have hlast : (x :: y :: l).getLast? = (y :: l).getLast? := List.getLast?_cons_cons
    have hhead : ((y :: l) ++ [x]).head? = (y :: l).head? := rfl
    rw [hlast, hhead]
    simp only [List.getLast?_concat, List.head?_cons, Option.some.injEq]
    grind

theorem Follows.mem (h : Follows c a b) : a ∈ c ∧ b ∈ c := by
  rcases h with hpair | ⟨ha, hb⟩
  · exact ⟨hpair.mem (by simp), hpair.mem (by simp)⟩
  · exact ⟨List.mem_of_getLast? ha, List.mem_of_head? hb⟩

/-- Turning a list does not change what follows what. -/
theorem follows_append_comm : Follows (l ++ m) a b ↔ Follows (m ++ l) a b := by
  induction l generalizing m with
  | nil => simp
  | cons x l ih =>
    calc Follows (x :: l ++ m) a b
        ↔ Follows (l ++ (m ++ [x])) a b := by
          rw [List.cons_append, follows_cons_iff_concat, List.append_assoc]
      _ ↔ Follows (m ++ x :: l) a b := by rw [ih, List.append_assoc, List.singleton_append]

/-! ### Turning a cycle -/

theorem exists_least? (h : c ≠ []) : ∃ least, least? c = some least := by
  cases c with
  | nil => exact absurd rfl h
  | cons id rest =>
    unfold least?
    cases least? rest <;> simp

theorem least?_spec {least : String} (h : least? c = some least) :
    least ∈ c ∧ ∀ id ∈ c, least ≤ id := by
  induction c generalizing least with
  | nil => simp [least?] at h
  | cons id rest ih =>
    unfold least? at h
    cases hr : least? rest with
    | none =>
      have hnil : rest = [] := by
        by_contra hne
        obtain ⟨other, ho⟩ := exists_least? hne
        simp [hr] at ho
      have : least = id := by simpa [hr, eq_comm] using h
      simp [hnil, this]
    | some other =>
      obtain ⟨hmem, hle⟩ := ih hr
      have hmin : (if other < id then other else id) = least := by simpa [hr] using h
      split at hmin
      next hlt =>
        subst hmin
        refine ⟨List.mem_cons_of_mem _ hmem, ?_⟩
        exact List.forall_mem_cons.mpr ⟨hlt.le, hle⟩
      next hnlt =>
        subst hmin
        refine ⟨List.mem_cons_self, List.forall_mem_cons.mpr ⟨le_rfl, fun x hx => ?_⟩⟩
        exact (not_lt.mp hnlt).trans (hle x hx)

/-- The canonical form starts at the smallest id. -/
theorem canonical_spec (h : c ≠ []) : ∃ l m least, c = l ++ m ∧ canonical c = m ++ l ∧
    m.head? = some least ∧ ∀ id ∈ c, least ≤ id := by
  obtain ⟨least, hleast⟩ := exists_least? h
  obtain ⟨hmem, hle⟩ := least?_spec hleast
  let before : String → Bool := fun id => id ≠ least
  refine ⟨c.takeWhile before, c.dropWhile before, least, ?_, ?_, ?_, hle⟩
  · exact List.takeWhile_append_dropWhile.symm
  · simp only [canonical, hleast]
    rfl
  · have hne : c.dropWhile before ≠ [] := by
      intro hnil
      have := List.dropWhile_eq_nil_iff.mp hnil least hmem
      simp [before] at this
    have hhead := List.head_dropWhile_not before hne
    rw [List.head?_eq_some_head hne]
    simpa [before] using hhead

end Cycles

namespace Adjacency

open Cycles

/-- Distinct ids, each with an edge to the one that follows. -/
structure IsCycle (g : Adjacency) (c : List String) : Prop where
  ne_nil : c ≠ []
  nodup : c.Nodup
  edges : ∀ a b, Follows c a b → g.Edge a b

variable {g : Adjacency} {fresh ids before after c : List String} {v w : String}

theorem IsCycle.of_append {l m : List String} (h : g.IsCycle (l ++ m)) : g.IsCycle (m ++ l) where
  ne_nil := by
    have := h.ne_nil
    simp only [ne_eq, List.append_eq_nil_iff, not_and] at this ⊢
    exact fun hm hl => this hl hm
  nodup := List.nodup_append_comm.mp h.nodup
  edges a b hab := h.edges a b (follows_append_comm.mp hab)

theorem IsCycle.canonical (h : g.IsCycle c) : g.IsCycle (canonical c) := by
  obtain ⟨l, m, _, hc, hcanon, _⟩ := canonical_spec h.ne_nil
  rw [hcanon]
  exact (hc ▸ h).of_append

/-- An edge back to a trail closes a cycle. -/
theorem Trail.closes (h : g.Trail fresh ids) (hids : ids = before ++ w :: after)
    (hv : ids.head? = some v) (hvw : g.Edge v w) :
    g.IsCycle (w :: before.reverse) ∧ Follows (w :: before.reverse) v w := by
  have hrev : w :: before.reverse = (before ++ [w]).reverse := by simp
  have hcut : ids = (before ++ [w]) ++ after := by simp [hids]
  have hlast : (w :: before.reverse).getLast? = some v := by
    rw [hrev, List.getLast?_reverse, ← hv, hcut]
    cases before <;> rfl
  have hchain : (w :: before.reverse).IsChain g.Edge := by
    rw [hrev, List.isChain_reverse]
    exact (hcut ▸ h.edges).left_of_append
  refine ⟨⟨by simp, ?_, ?_⟩, .inr ⟨hlast, rfl⟩⟩
  · rw [hrev, List.nodup_reverse]
    exact (hcut ▸ h.nodup).of_append_left
  · rintro a b (hpair | ⟨ha, hb⟩)
    · have hab : [a, b].IsChain g.Edge := List.IsChain.infix hchain hpair
      exact List.isChain_pair.mp hab
    · obtain rfl : v = a := by simpa [hlast] using ha
      obtain rfl : w = b := by simpa using hb
      exact hvw

namespace IsCycle

/-- A cycle can be listed from each of its ids on. -/
theorem exists_from (h : g.IsCycle c) (hv : v ∈ c) : ∃ rest, g.IsCycle (v :: rest) ∧
    (v :: rest).Perm c := by
  obtain ⟨l, m, rfl⟩ := List.append_of_mem hv
  have hperm : (v :: m ++ l).Perm (l ++ v :: m) := List.perm_append_comm
  exact ⟨m ++ l, h.of_append, hperm⟩

theorem isChain (h : g.IsCycle c) : c.IsChain g.Edge :=
  (List.isChain_isInfix c).imp fun x y hxy => h.edges x y (.inl hxy)

theorem path (h : g.IsCycle c) (hv : v ∈ c) (hw : w ∈ c) : ReflTransGen g.Edge v w := by
  obtain ⟨rest, hrest, hperm⟩ := h.exists_from hv
  exact path_of_isChain hrest.isChain (hperm.mem_iff.mpr hw)

theorem cyclic (h : g.IsCycle c) (hv : v ∈ c) : TransGen g.Edge v v := by
  obtain ⟨rest, hrest, _⟩ := h.exists_from hv
  have hlast : g.Edge ((v :: rest).getLast (by simp)) v :=
    hrest.edges _ _ (.inr ⟨List.getLast?_eq_some_getLast _, rfl⟩)
  exact .tail' (path_of_isChain hrest.isChain (List.getLast_mem _)) hlast

/-- A cycle through another node leads back without loops. -/
theorem properCyclic (h : g.IsCycle c) (hlen : 2 ≤ c.length) (hv : v ∈ c) :
    TransGen g.ProperEdge v v := by
  obtain ⟨rest, hrest, hperm⟩ := h.exists_from hv
  cases rest with
  | nil => simp [← hperm.length_eq] at hlen
  | cons w rest =>
    have hvw : g.Edge v w := (List.isChain_cons_cons.mp hrest.isChain).1
    have hne : w ≠ v := fun he => (List.nodup_cons.mp hrest.nodup).1 (by simp [he])
    exact .head' ⟨hvw, hne⟩ (properPath (hrest.path (by simp) (by simp)))

end IsCycle

end Adjacency

namespace Cycles

variable {g : Adjacency} {fresh c : List String} {v w start : String} {path rest : List Frame}
  {found : List (List String)}

theorem since?_eq_some (h : since? w path = some c) :
    ∃ before after, path.map Frame.id = before ++ w :: after ∧ c = w :: before.reverse := by
  induction path generalizing c with
  | nil => simp [since?] at h
  | cons f rest ih =>
    unfold since? at h
    split at h
    next he => exact ⟨[], rest.map Frame.id, by simp [he], by simpa [he, eq_comm] using h⟩
    next he =>
      obtain ⟨c', hc', rfl⟩ := Option.map_eq_some_iff.mp h
      obtain ⟨before, after, hids, rfl⟩ := ih hc'
      exact ⟨f.id :: before, after, by simp [hids], by simp⟩

theorem not_mem_of_since?_eq_none (h : since? w path = none) : w ∉ path.map Frame.id := by
  induction path with
  | nil => simp
  | cons f rest ih =>
    unfold since? at h
    split at h
    next => cases h
    next he =>
      have hrest := ih (Option.map_eq_none_iff.mp h)
      simp only [List.map_cons, List.mem_cons, not_or]
      exact ⟨Ne.symm he, hrest⟩

/-- What holds at every moment of a search. -/
structure Searching (g : Adjacency) (fresh : List String) (path : List Frame) : Prop where
  trail : g.Trail fresh (path.map Frame.id)
  pending : ∀ f ∈ path, ∀ w ∈ f.pending, g.Edge f.id w

namespace Searching

theorem leave {pending : List String} (h : Searching g fresh (⟨v, pending⟩ :: rest)) :
    Searching g fresh rest where
  trail := h.trail.leave
  pending f hf := h.pending f (List.mem_cons_of_mem _ hf)

theorem drop {pending : List String} (h : Searching g fresh (⟨v, w :: pending⟩ :: rest)) :
    Searching g fresh (⟨v, pending⟩ :: rest) where
  trail := h.trail
  pending := by
    obtain ⟨hv, hrest⟩ := List.forall_mem_cons.mp h.pending
    exact List.forall_mem_cons.mpr ⟨fun x hx => hv x (List.mem_cons_of_mem _ hx), hrest⟩

theorem edge {pending : List String} (h : Searching g fresh (⟨v, w :: pending⟩ :: rest)) :
    g.Edge v w :=
  h.pending _ List.mem_cons_self w List.mem_cons_self

theorem enter {pending : List String} (h : Searching g fresh (⟨v, w :: pending⟩ :: rest))
    (hw : w ∈ fresh) :
    Searching g (fresh.erase w) (⟨w, g.successors w⟩ :: ⟨v, pending⟩ :: rest) where
  trail := h.trail.enter h.edge hw
  pending := List.forall_mem_cons.mpr ⟨fun _ hx => hx, h.drop.pending⟩

theorem closes {pending : List String} (h : Searching g fresh (⟨v, w :: pending⟩ :: rest))
    (hc : since? w (⟨v, pending⟩ :: rest) = some c) : g.IsCycle c ∧ Follows c v w := by
  obtain ⟨before, after, hids, rfl⟩ := since?_eq_some hc
  exact h.trail.closes hids rfl h.edge

end Searching

theorem search_sound (h : Searching g fresh path) (hc : c ∈ search g fresh path) :
    g.IsCycle c ∧ ∃ least, c.head? = some least ∧ ∀ id ∈ c, least ≤ id := by
  fun_induction search g fresh path with
  | case1 => simp at hc
  | case2 fresh v rest ih => exact ih h.leave hc
  | case3 fresh v w pending rest hw ih => exact ih (h.enter hw) hc
  | case4 fresh v w pending rest hw cycle hs ih =>
    rcases List.mem_cons.mp hc with rfl | hc
    · have hcycle := (h.closes hs).1
      refine ⟨hcycle.canonical, ?_⟩
      obtain ⟨l, m, least, rfl, hcanon, hhead, hleast⟩ := canonical_spec hcycle.ne_nil
      have hfirst : (m ++ l).head? = some least := by simp [List.head?_append, hhead]
      refine ⟨least, by rw [hcanon, hfirst], fun id hid => hleast id ?_⟩
      rw [hcanon, List.mem_append] at hid
      exact List.mem_append.mpr hid.symm
    · exact ih h.drop hc
  | case5 fresh v w pending rest hw hs ih => exact ih h.drop hc

/-- Each edge out of a node that the search has met waits on the path, or is dealt with. -/
def Handled (g : Adjacency) (fresh : List String) (path : List Frame)
    (dealt : String → String → Prop) : Prop :=
  ∀ v, v ∉ fresh → ∀ w, g.Edge v w → (∃ f ∈ path, f.id = v ∧ w ∈ f.pending) ∨ dealt v w

namespace Handled

variable {dealt dealt' : String → String → Prop} {pending : List String}

theorem leave (h : Handled g fresh (⟨v, []⟩ :: rest) dealt) : Handled g fresh rest dealt := by
  intro u hu x hx
  rcases h u hu x hx with ⟨f, hf, hid, hp⟩ | hdone
  · rcases List.mem_cons.mp hf with rfl | hf
    · exact absurd hp List.not_mem_nil
    · exact .inl ⟨f, hf, hid, hp⟩
  · exact .inr hdone

theorem drop (h : Handled g fresh (⟨v, w :: pending⟩ :: rest) dealt) (hvw : dealt' v w)
    (hmono : ∀ u x, dealt u x → dealt' u x) : Handled g fresh (⟨v, pending⟩ :: rest) dealt' := by
  intro u hu x hx
  rcases h u hu x hx with ⟨f, hf, hid, hp⟩ | hdone
  · rcases List.mem_cons.mp hf with rfl | hf
    · rcases List.mem_cons.mp hp with rfl | hp
      · exact .inr (hid ▸ hvw)
      · exact .inl ⟨⟨v, pending⟩, List.mem_cons_self, hid, hp⟩
    · exact .inl ⟨f, List.mem_cons_of_mem _ hf, hid, hp⟩
  · exact .inr (hmono u x hdone)

/-- All edges out of the node that is entered wait. -/
theorem enter (h : Handled g fresh (⟨v, w :: pending⟩ :: rest) dealt) (hvw : dealt' v w)
    (hmono : ∀ u x, dealt u x → dealt' u x) :
    Handled g (fresh.erase w) (⟨w, g.successors w⟩ :: ⟨v, pending⟩ :: rest) dealt' := by
  intro u hu x hx
  by_cases he : u = w
  · exact .inl ⟨_, List.mem_cons_self, he.symm, he ▸ hx⟩
  · have hu' : u ∉ fresh := fun hm => hu ((List.mem_erase_of_ne he).mpr hm)
    rcases h.drop hvw hmono u hu' x hx with ⟨f, hf, hwaits⟩ | hdone
    · exact .inl ⟨f, List.mem_cons_of_mem _ hf, hwaits⟩
    · exact .inr hdone

/-- With no open path all that a met node leads to is met. -/
theorem met (h : Handled g fresh [] dealt) (hmet : ∀ u x, dealt u x → x ∉ fresh) (hw : w ∉ fresh)
    (hv : ReflTransGen g.Edge w v) : v ∉ fresh := by
  induction hv with
  | refl => exact hw
  | @tail u x _ hux ih =>
    rcases h u ih x hux with ⟨f, hf, -⟩ | hdone
    · exact absurd hf List.not_mem_nil
    · exact hmet u x hdone

end Handled

/-- At the beginning all edges out of the start wait. -/
theorem handled_start (g : Adjacency) (start : String) (dealt : String → String → Prop) :
    Handled g (g.nodes.erase start) [⟨start, g.successors start⟩] dealt := by
  intro v hv w hw
  by_cases he : v = start
  · exact .inl ⟨_, List.mem_cons_self, he.symm, he ▸ hw⟩
  · exact absurd ((List.mem_erase_of_ne he).mpr (Adjacency.source_mem_nodes hw)) hv

/-- All that the search has met is explored, or waits on the path; and the cycles are found that
its edges into the start close. -/
structure Covering (g : Adjacency) (start : String) (fresh : List String) (path : List Frame)
    (found : List (List String)) : Prop where
  startMet : start ∉ fresh
  startOnPath : path ≠ [] → (path.map Frame.id).getLast? = some start
  explored : ∀ v, v ∉ fresh → ∀ w, g.Edge v w → (∃ f ∈ path, f.id = v ∧ w ∈ f.pending) ∨
    w ∉ fresh ∧ (w = start → ∃ c ∈ found, Follows c v start)

namespace Covering

theorem leave (h : Covering g start fresh (⟨v, []⟩ :: rest) found) :
    Covering g start fresh rest found where
  startMet := h.startMet
  startOnPath hne := by
    have hlast := h.startOnPath (by simp)
    cases rest with
    | nil => exact absurd rfl hne
    | cons f rest => simpa [List.getLast?_cons_cons] using hlast
  explored := Handled.leave h.explored

theorem enter {pending : List String} (h : Covering g start fresh (⟨v, w :: pending⟩ :: rest) found)
    (hn : fresh.Nodup) (hw : w ∈ fresh) :
    Covering g start (fresh.erase w) (⟨w, g.successors w⟩ :: ⟨v, pending⟩ :: rest) found where
  startMet hs := h.startMet (List.mem_of_mem_erase hs)
  startOnPath _ := by
    have hlast := h.startOnPath (by simp)
    simpa [List.getLast?_cons_cons] using hlast
  explored := by
    refine Handled.enter h.explored ⟨hn.not_mem_erase, fun hs => absurd (hs ▸ hw) h.startMet⟩ ?_
    exact fun u x hdone => ⟨fun hm => hdone.1 (List.mem_of_mem_erase hm), hdone.2⟩

/-- The last node of the path need not look at a successor that is met. -/
theorem drop {pending : List String} {more : List (List String)}
    (h : Covering g start fresh (⟨v, w :: pending⟩ :: rest) found) (hw : w ∉ fresh)
    (hmore : ∀ c ∈ found, c ∈ more) (hclosed : w = start → ∃ c ∈ more, Follows c v start) :
    Covering g start fresh (⟨v, pending⟩ :: rest) more where
  startMet := h.startMet
  startOnPath _ := h.startOnPath (by simp)
  explored := by
    refine Handled.drop h.explored ⟨hw, hclosed⟩ fun u x ⟨hmet, hstart⟩ => ⟨hmet, fun hs => ?_⟩
    obtain ⟨c, hc, hfollows⟩ := hstart hs
    exact ⟨c, hmore c hc, hfollows⟩

/-- With no open path all that the start leads to is met. -/
theorem met (h : Covering g start fresh [] found) (hv : ReflTransGen g.Edge start v) :
    v ∉ fresh :=
  Handled.met h.explored (fun _ _ hdone => hdone.1) h.startMet hv

theorem complete (h : Covering g start fresh [] found) (hv : ReflTransGen g.Edge start v)
    (hback : g.Edge v start) : ∃ c ∈ found, Follows c v start := by
  rcases h.explored v (h.met hv) start hback with ⟨f, hf, _⟩ | ⟨_, hfound⟩
  · simp at hf
  · exact hfound rfl

end Covering

theorem search_covers (h : Searching g fresh path) (hcover : Covering g start fresh path found)
    (hv : ReflTransGen g.Edge start v) (hback : g.Edge v start) :
    ∃ c ∈ found ++ search g fresh path, Follows c v start := by
  fun_induction search g fresh path generalizing found with
  | case1 fresh =>
    simpa using hcover.complete hv hback
  | case2 fresh u rest ih => exact ih h.leave hcover.leave
  | case3 fresh u w pending rest hw ih =>
    exact ih (h.enter hw) (hcover.enter h.trail.freshNodup hw)
  | case4 fresh u w pending rest hw cycle hs ih =>
    have hcycle := h.closes hs
    have hturned : Follows (canonical cycle) u w := by
      obtain ⟨l, m, _, rfl, hcanon, _⟩ := canonical_spec hcycle.1.ne_nil
      rw [hcanon]
      exact follows_append_comm.mp hcycle.2
    have hnext : Covering g start fresh (⟨u, pending⟩ :: rest) (found ++ [canonical cycle]) :=
      hcover.drop hw (fun c hc => List.mem_append_left _ hc)
        fun hstart => ⟨canonical cycle, by simp, hstart ▸ hturned⟩
    simpa using ih h.drop hnext
  | case5 fresh u w pending rest hw hs ih =>
    refine ih h.drop (hcover.drop hw (fun _ hc => hc) fun hstart => ?_)
    -- the start is on the path as long as there is one
    have hlast := hcover.startOnPath (by simp)
    have hmem : start ∈ (⟨u, pending⟩ :: rest : List Frame).map Frame.id :=
      List.mem_of_getLast? hlast
    exact absurd (hstart ▸ hmem) (not_mem_of_since?_eq_none hs)

theorem searching_start (g : Adjacency) (start : String) :
    Searching g (g.nodes.erase start) [⟨start, g.successors start⟩] where
  trail := .start (g.nodes_nodup.erase start) g.nodes_nodup.not_mem_erase
  pending := by simp [Adjacency.Edge]

theorem covering_start (g : Adjacency) (start : String) :
    Covering g start (g.nodes.erase start) [⟨start, g.successors start⟩] [] where
  startMet := g.nodes_nodup.not_mem_erase
  startOnPath _ := rfl
  explored := handled_start g start _

/-! ### The list of cycles -/

theorem mem_insertCycle {cycle : List String} :
    c ∈ insertCycle cycle found ↔ c = cycle ∨ c ∈ found := by
  induction found with
  | nil => simp [insertCycle]
  | cons d rest ih =>
    unfold insertCycle
    split
    · simp
    · split
      next he => simp [he]
      next => simp [ih, or_left_comm]

theorem pairwise_insertCycle (cycle : List String) (h : found.Pairwise (· < ·)) :
    (insertCycle cycle found).Pairwise (· < ·) := by
  induction found with
  | nil => simp [insertCycle]
  | cons d rest ih =>
    obtain ⟨hd, hrest⟩ := List.pairwise_cons.mp h
    unfold insertCycle
    split
    next hlt =>
      refine List.pairwise_cons.mpr ⟨?_, h⟩
      exact List.forall_mem_cons.mpr ⟨hlt, fun c hc => lt_trans hlt (hd c hc)⟩
    next hnlt =>
      split
      next => exact h
      next hne =>
        have hlt : d < cycle := lt_of_le_of_ne (not_lt.mp hnlt) (Ne.symm hne)
        refine List.pairwise_cons.mpr ⟨fun c hc => ?_, ih hrest⟩
        rcases mem_insertCycle.mp hc with rfl | hc
        · exact hlt
        · exact hd c hc

theorem foldl_insertCycle_spec (cycles : List (List String)) (h : found.Pairwise (· < ·)) :
    (cycles.foldl (fun found c => insertCycle c found) found).Pairwise (· < ·) ∧
      ∀ c, c ∈ cycles.foldl (fun found c => insertCycle c found) found ↔
        c ∈ cycles ∨ c ∈ found := by
  induction cycles generalizing found with
  | nil => simpa using h
  | cons cycle rest ih =>
    obtain ⟨hsorted, hmem⟩ := ih (pairwise_insertCycle cycle h)
    refine ⟨hsorted, fun c => ?_⟩
    rw [List.foldl_cons, hmem, mem_insertCycle, List.mem_cons, or_left_comm, or_assoc]

end Cycles

namespace Adjacency

open Cycles

variable {g : Adjacency} {c : List String} {w u : String}

theorem mem_cycles_iff : c ∈ g.cycles ↔ ∃ start ∈ g.keys, c ∈ searchFrom g start := by
  unfold cycles
  rw [(foldl_insertCycle_spec _ .nil).2]
  simp

/-- Cycles of a graph in increasing order, among which no edge is missing that is on a cycle. -/
structure IsCycleCover (g : Adjacency) (cycles : List (List String)) : Prop where
  isCycle : ∀ c ∈ cycles, g.IsCycle c
  least : ∀ c ∈ cycles, ∃ least, c.head? = some least ∧ ∀ id ∈ c, least ≤ id
  increasing : cycles.Pairwise (· < ·)
  covers : ∀ w u, g.Edge w u → ReflTransGen g.Edge u w → ∃ c ∈ cycles, Follows c w u
  eq_nil_iff : cycles = [] ↔ g.Acyclic

theorem isCycle_of_mem_cycles (h : c ∈ g.cycles) :
    g.IsCycle c ∧ ∃ least, c.head? = some least ∧ ∀ id ∈ c, least ≤ id := by
  obtain ⟨start, _, hc⟩ := mem_cycles_iff.mp h
  exact search_sound (searching_start g start) hc

/-- The search from the target of the edge finds a cycle with it. -/
theorem exists_mem_cycles_of_edge (hwu : g.Edge w u) (huw : ReflTransGen g.Edge u w) :
    ∃ c ∈ g.cycles, Follows c w u := by
  have hkey : u ∈ g.keys := by
    rcases huw.cases_head with rfl | ⟨x, hux, _⟩
    · exact edge_mem_keys hwu
    · exact edge_mem_keys hux
  obtain ⟨c, hc, hfollows⟩ := search_covers (searching_start g u) (covering_start g u) huw hwu
  rw [List.nil_append] at hc
  exact ⟨c, mem_cycles_iff.mpr ⟨u, hkey, hc⟩, hfollows⟩

/-- A way back without loops lies on a cycle through another node. -/
theorem exists_isCycle_of_properCyclic {v : String} (h : TransGen g.ProperEdge v v) :
    ∃ c, g.IsCycle c ∧ 2 ≤ c.length ∧ v ∈ c := by
  obtain ⟨w, hvw, hback⟩ := TransGen.head'_iff.mp h
  have hpath : ReflTransGen g.Edge w v := path_of_properPath hback
  obtain ⟨c, hc, hfollows⟩ := exists_mem_cycles_of_edge hvw.1 hpath
  have hcycle := (isCycle_of_mem_cycles hc).1
  obtain ⟨hv, hw⟩ := hfollows.mem
  refine ⟨c, hcycle, ?_, hv⟩
  have hsub : [v, w] ⊆ c := by simp [hv, hw]
  have hpair : [v, w].Nodup := by simp [hvw.2.symm]
  exact (hpair.subperm hsub).length_le

theorem cycles_eq_nil_iff : g.cycles = [] ↔ g.Acyclic := by
  constructor
  · intro hnil v hcycle
    obtain ⟨w, hvw, hwv⟩ := TransGen.tail'_iff.mp hcycle
    obtain ⟨c, hc, _⟩ := exists_mem_cycles_of_edge hwv hvw
    simp [hnil] at hc
  · intro hacyclic
    refine List.eq_nil_iff_forall_not_mem.mpr fun c hc => ?_
    have hcycle := (isCycle_of_mem_cycles hc).1
    obtain ⟨a, ha⟩ := List.exists_mem_of_ne_nil c hcycle.ne_nil
    exact hacyclic a (hcycle.cyclic ha)

theorem isCycleCover_cycles (g : Adjacency) : g.IsCycleCover g.cycles where
  isCycle _ hc := (isCycle_of_mem_cycles hc).1
  least _ hc := (isCycle_of_mem_cycles hc).2
  increasing := (foldl_insertCycle_spec _ .nil).1
  covers _ _ hwu huw := exists_mem_cycles_of_edge hwu huw
  eq_nil_iff := cycles_eq_nil_iff

end Adjacency

end TagAtlas
