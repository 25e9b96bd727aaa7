import Mathlib.Tactic.IntervalCases
import TagAtlas.Proofs.CycleTurns

/-!
# The cycles on foremost paths

When the successors of each node are listed in increasing order, a search goes along foremost
paths: it enters a node when it is on the path to the node that comes first in lexicographic order.
Nodes that a path to an earlier successor leads to are met before. So the cycles that are found are
those that an edge from the end of a foremost path back to the path closes. A cycle that no foremost
path runs through up to its last edge is missed, although each of its edges is on a cycle that is
found.
-/

namespace TagAtlas

open Relation

namespace Adjacency

variable {g : Adjacency} {a b : String} {l m p q : List String}

/-- Distinct ids, each with an edge to the next. -/
structure IsRoute (g : Adjacency) (p : List String) : Prop where
  nodup : p.Nodup
  edges : p.IsChain g.Edge

/-- A path of distinct ids from one id to another. -/
structure IsPath (g : Adjacency) (a b : String) (p : List String) : Prop extends g.IsRoute p where
  first : p.head? = some a
  last : p.getLast? = some b

/-- The path that comes before all others between the same ids. -/
structure IsForemost (g : Adjacency) (a b : String) (p : List String) : Prop
    extends g.IsPath a b p where
  least : ∀ q, g.IsPath a b q → ¬ q < p

/-- The successors of each id are listed in increasing order, each once. -/
def IsSorted (g : Adjacency) : Prop := ∀ id, (g.successors id).Pairwise (· < ·)

theorem isSorted_iff : g.IsSorted ↔ ∀ ids ∈ g.values, ids.Pairwise (· < ·) := by
  constructor
  · intro h ids hids
    obtain ⟨id, hid⟩ := Dict.mem_values_iff.mp hids
    have hsorted := h id
    rwa [successors, hid, Option.getD_some] at hsorted
  · intro h id
    unfold successors
    cases hid : g.find? id with
    | none => exact .nil
    | some ids => exact h ids (Dict.mem_values_iff.mpr ⟨id, hid⟩)

theorem IsForemost.unique (hp : g.IsForemost a b p) (hq : g.IsForemost a b q) : p = q :=
  le_antisymm (not_lt.mp (hp.least q hq.toIsPath)) (not_lt.mp (hq.least p hp.toIsPath))

theorem IsRoute.left (h : g.IsRoute (l ++ m)) : g.IsRoute l :=
  ⟨h.nodup.of_append_left, h.edges.left_of_append⟩

theorem IsRoute.right (h : g.IsRoute (l ++ m)) : g.IsRoute m :=
  ⟨h.nodup.of_append_right, h.edges.right_of_append⟩

/-- What comes before another list is the beginning of it or parts from it at a smaller id. -/
theorem parts_of_lt (h : q < p) : (∃ y m, p = q ++ y :: m) ∨
    ∃ l x m y m', q = l ++ x :: m ∧ p = l ++ y :: m' ∧ x < y := by
  change List.Lex (· < ·) q p at h
  induction h with
  | nil => exact .inl ⟨_, _, rfl⟩
  | rel hlt => exact .inr ⟨[], _, _, _, _, rfl, rfl, hlt⟩
  | @cons z _ _ _ ih =>
    rcases ih with ⟨y, m, rfl⟩ | ⟨l, x, m, y, m', rfl, rfl, hlt⟩
    · exact .inl ⟨y, m, rfl⟩
    · exact .inr ⟨z :: l, x, m, y, m', rfl, rfl, hlt⟩

theorem isForemost_self (a : String) : g.IsForemost a a [a] := by
  refine ⟨⟨⟨List.nodup_singleton a, .singleton a⟩, rfl, rfl⟩, fun q hq hlt => ?_⟩
  rcases parts_of_lt hlt with ⟨y, m, hp⟩ | ⟨l, x, m, y, m', rfl, hp, hxy⟩
  · cases q with
    | nil => cases hq.first
    | cons z q => simp at hp
  · cases l with
    | nil =>
      obtain rfl := List.head_eq_of_cons_eq hp
      exact absurd (Option.some.inj hq.first) (ne_of_lt hxy)
    | cons z l => simp at hp

theorem IsPath.leads (h : g.IsPath a b p) : ReflTransGen g.Edge a b := by
  obtain ⟨m, rfl⟩ := List.head?_eq_some_iff.mp h.first
  exact path_of_isChain h.edges (List.mem_of_getLast? h.last)

/-- A list of distinct ids has one end that begins with an id. -/
theorem eq_of_suffix (hp : p.Nodup) (hl : a :: l <:+ p) (hm : a :: m <:+ p) : l = m := by
  have hwithin : ∀ {l m : List String}, a :: m <:+ p → a :: l <:+ a :: m → l = m := by
    intro l m hm hl
    rcases List.suffix_cons_iff.mp hl with heq | hl
    · exact List.tail_eq_of_cons_eq heq
    · exact absurd (hl.subset List.mem_cons_self) (List.nodup_cons.mp (hp.sublist hm.sublist)).1
  rcases List.suffix_or_suffix_of_suffix hl hm with h | h
  · exact hwithin hm h
  · exact (hwithin hl h).symm

end Adjacency

namespace Cycles

open Adjacency

variable {g : Adjacency} {fresh c ids : List String} {v w start : String} {f d : Frame}
  {path rest : List Frame} {pending : List String} {next : Option String}

def route (path : List Frame) : List String := (path.map Frame.id).reverse

theorem route_cons (f : Frame) (path : List Frame) : route (f :: path) = route path ++ [f.id] :=
  List.reverse_cons

/-- No way through a successor that the end of the path is done with leads to a fresh node. -/
def Done (g : Adjacency) (fresh : List String) (f : Frame) (earlier : List Frame)
    (next : Option String) : Prop :=
  ∀ x m, x ∉ f.pending → (∀ y ∈ next, x ≠ y) → g.IsRoute (route (f :: earlier) ++ x :: m) →
    ∀ z ∈ x :: m, z ∉ fresh

/-- No way that leaves the path through a successor that is done with leads to a fresh node. The
path goes on to `next`. -/
def Passed (g : Adjacency) (fresh : List String) : Option String → List Frame → Prop
  | _, [] => True
  | next, f :: earlier => Done g fresh f earlier next ∧ Passed g fresh (some f.id) earlier

/-- What the search has met is explored, or waits on the path. -/
def Explored (g : Adjacency) (fresh : List String) (path : List Frame) : Prop :=
  Handled g fresh path fun _ w => w ∉ fresh

/-- The cycles are found that the edges back to foremost paths close. -/
def Closed (g : Adjacency) (start : String) (fresh : List String) (path : List Frame)
    (found : List (List String)) : Prop :=
  Handled g fresh path fun v w => ∀ p m, g.IsForemost start v p → w :: m <:+ p →
    canonical (w :: m) ∈ found

/-- Off the path, only met nodes are reached from a met node. -/
theorem Explored.not_mem_fresh (h : Explored g fresh path) {m : List String} (hw : w ∉ fresh)
    (hedges : (w :: m).IsChain g.Edge) (hoff : ∀ x ∈ w :: m, x ∉ path.map Frame.id) :
    ∀ z ∈ w :: m, z ∉ fresh := by
  induction m generalizing w with
  | nil => exact List.forall_mem_singleton.mpr hw
  | cons x m ih =>
    obtain ⟨hedge, hedges⟩ := List.isChain_cons_cons.mp hedges
    obtain ⟨hwoff, hoff⟩ := List.forall_mem_cons.mp hoff
    refine List.forall_mem_cons.mpr ⟨hw, ih ?_ hedges hoff⟩
    rcases h w hw x hedge with ⟨f, hf, hid, -⟩ | hx
    · exact absurd (hid ▸ List.mem_map_of_mem hf) hwoff
    · exact hx

namespace Passed

theorem leave (h : Passed g fresh none (⟨v, []⟩ :: rest)) (hv : v ∉ fresh) :
    Passed g fresh none rest := by
  obtain ⟨hdone, hrest⟩ := h
  cases rest with
  | nil => trivial
  | cons f rest =>
    refine ⟨fun x m hx _ hroute => ?_, hrest.2⟩
    by_cases hxv : x = v
    · subst hxv
      refine List.forall_mem_cons.mpr ⟨hv, ?_⟩
      cases m with
      | nil => exact List.forall_mem_nil _
      | cons y m =>
        refine hdone y m List.not_mem_nil nofun ?_
        rwa [route_cons, List.append_assoc, List.singleton_append]
    · exact hrest.1 x m hx (by rintro y ⟨⟩; exact hxv) hroute

theorem enter (h : Passed g fresh none (⟨v, w :: pending⟩ :: rest)) :
    Passed g fresh none (⟨w, g.successors w⟩ :: ⟨v, pending⟩ :: rest) := by
  obtain ⟨hdone, hrest⟩ := h
  refine ⟨fun x m hx _ hroute => ?_, fun x m hx hnext hroute => ?_, hrest⟩
  · -- A successor of the new node is pending.
    rw [route_cons, List.append_assoc, List.singleton_append] at hroute
    exact absurd (List.isChain_cons_cons.mp hroute.right.edges).1 hx
  · refine hdone x m (fun hmem => ?_) nofun hroute
    exact (List.mem_cons.mp hmem).elim (hnext w rfl) hx

theorem drop (h : Passed g fresh none (⟨v, w :: pending⟩ :: rest))
    (hexplored : Explored g fresh (⟨v, w :: pending⟩ :: rest)) (hw : w ∉ fresh) :
    Passed g fresh none (⟨v, pending⟩ :: rest) := by
  obtain ⟨hdone, hrest⟩ := h
  refine ⟨fun x m hx _ hroute => ?_, hrest⟩
  by_cases hxw : x = w
  · subst hxw
    refine hexplored.not_mem_fresh hw hroute.right.edges fun z hz hmem => ?_
    exact List.disjoint_of_nodup_append hroute.nodup (List.mem_reverse.mpr hmem) hz
  · exact hdone x m (fun hmem => (List.mem_cons.mp hmem).elim hxw hx) nofun hroute

theorem of_append {later : List Frame} (h : Passed g fresh next (later ++ path)) :
    ∃ next, Passed g fresh next path := by
  induction later generalizing next with
  | nil => exact ⟨next, h⟩
  | cons f later ih => exact ih h.2

theorem mono {fresh' : List String} (hsub : fresh' ⊆ fresh) (h : Passed g fresh next path) :
    Passed g fresh' next path := by
  induction path generalizing next with
  | nil => trivial
  | cons f path ih =>
    exact ⟨fun x m hx hnext hroute z hz hm => h.1 x m hx hnext hroute z hz (hsub hm), ih h.2⟩

end Passed

/-- An id on the way of a path, but for the first one, is that of a frame after another. -/
theorem exists_frames_of_route_eq {l m : List String} {y : String} (h : route path = l ++ y :: m)
    (hl : l ≠ []) : ∃ later d e earlier, path = later ++ d :: e :: earlier ∧ d.id = y ∧
      route (e :: earlier) = l := by
  have hids : path.map Frame.id = m.reverse ++ y :: l.reverse := by
    rw [← List.reverse_inj, ← route, h]
    simp
  obtain ⟨later, _, rfl, -, hbelow⟩ := List.map_eq_append_iff.mp hids
  obtain ⟨d, earlier, rfl, hd, hearlier⟩ := List.map_eq_cons_iff.mp hbelow
  cases earlier with
  | nil => exact absurd (List.reverse_eq_nil_iff.mp hearlier.symm) hl
  | cons e earlier => exact ⟨later, d, e, earlier, rfl, hd, by simp [route, hearlier]⟩

/-- The end of the path is reached first along the path. -/
theorem not_lt_route (h : Passed g fresh none (f :: path)) (hf : f.id ∈ fresh)
    (hlater : (f :: path).IsChain fun d f => ∀ x ∈ f.pending, d.id < x)
    (hpath : g.IsPath start f.id (route (f :: path))) {q : List String}
    (hq : g.IsPath start f.id q) : ¬ q < route (f :: path) := by
  intro hlt
  rcases parts_of_lt hlt with ⟨y, m, hp⟩ | ⟨l, x, m, y, m', rfl, hp, hxy⟩
  · -- The path is at its end only once.
    have hlast := hpath.last
    rw [hp, List.getLast?_append_of_ne_nil _ (List.cons_ne_nil y m)] at hlast
    exact List.disjoint_of_nodup_append (hp ▸ hpath.nodup) (List.mem_of_getLast? hq.last)
      (List.mem_of_getLast? hlast)
  · have hne : l ≠ [] := by
      rintro rfl
      have hy := hpath.first
      rw [hp] at hy
      exact absurd (hq.first.trans hy.symm) (by simpa using ne_of_lt hxy)
    obtain ⟨later, d, e, earlier, hframes, rfl, rfl⟩ := exists_frames_of_route_eq hp hne
    rw [hframes] at h hlater
    obtain ⟨_, -, hdone, -⟩ := h.of_append
    have hbefore : ∀ z ∈ e.pending, d.id < z :=
      (List.isChain_cons_cons.mp hlater.right_of_append).1
    have hend : f.id ∈ x :: m := by
      have hlast := hq.last
      rw [List.getLast?_append_of_ne_nil _ (List.cons_ne_nil x m)] at hlast
      exact List.mem_of_getLast? hlast
    exact hdone x m (fun hx => lt_asymm hxy (hbefore x hx)) (by rintro z ⟨⟩; exact ne_of_lt hxy)
      hq.toIsRoute f.id hend hf

/-- What holds at every moment of a search along sorted successors. -/
structure Leading (g : Adjacency) (start : String) (fresh : List String) (path : List Frame) :
    Prop where
  searching : Searching g fresh path
  startMet : start ∉ fresh
  increasing : ∀ f ∈ path, f.pending.Pairwise (· < ·)
  later : path.IsChain fun d f => ∀ x ∈ f.pending, d.id < x
  explored : Explored g fresh path
  passed : Passed g fresh none path
  foremost : ∀ v ids, v :: ids <:+ path.map Frame.id → g.IsForemost start v (v :: ids).reverse

namespace Leading

theorem leave (h : Leading g start fresh (⟨v, []⟩ :: rest)) : Leading g start fresh rest where
  searching := h.searching.leave
  startMet := h.startMet
  increasing := (List.forall_mem_cons.mp h.increasing).2
  later := h.later.tail
  explored := Handled.leave h.explored
  passed := h.passed.leave (h.searching.trail.met v List.mem_cons_self)
  foremost u ids hids := h.foremost u ids (hids.trans (List.suffix_cons _ _))

theorem later_drop (h : (⟨v, w :: pending⟩ :: rest : List Frame).IsChain
      fun d f => ∀ x ∈ f.pending, d.id < x) :
    (⟨v, pending⟩ :: rest : List Frame).IsChain fun d f => ∀ x ∈ f.pending, d.id < x := by
  cases rest with
  | nil => exact .singleton _
  | cons f rest =>
    obtain ⟨hf, hrest⟩ := List.isChain_cons_cons.mp h
    exact List.isChain_cons_cons.mpr ⟨hf, hrest⟩

theorem drop (h : Leading g start fresh (⟨v, w :: pending⟩ :: rest)) (hw : w ∉ fresh) :
    Leading g start fresh (⟨v, pending⟩ :: rest) where
  searching := h.searching.drop
  startMet := h.startMet
  increasing := by
    obtain ⟨hpending, hrest⟩ := List.forall_mem_cons.mp h.increasing
    exact List.forall_mem_cons.mpr ⟨hpending.of_cons, hrest⟩
  later := later_drop h.later
  explored := Handled.drop h.explored hw fun _ _ hx => hx
  passed := h.passed.drop h.explored hw
  foremost := h.foremost

theorem enter (hg : g.IsSorted) (h : Leading g start fresh (⟨v, w :: pending⟩ :: rest))
    (hw : w ∈ fresh) :
    Leading g start (fresh.erase w) (⟨w, g.successors w⟩ :: ⟨v, pending⟩ :: rest) := by
  obtain ⟨hpending, hrest⟩ := List.forall_mem_cons.mp h.increasing
  have hlater : (⟨w, g.successors w⟩ :: ⟨v, pending⟩ :: rest : List Frame).IsChain
      fun d f => ∀ x ∈ f.pending, d.id < x :=
    List.isChain_cons_cons.mpr ⟨(List.pairwise_cons.mp hpending).1, later_drop h.later⟩
  have hsearching := h.searching.enter hw
  have hroute : g.IsPath start w (route (⟨w, g.successors w⟩ :: ⟨v, pending⟩ :: rest)) := by
    have hfirst : (route (⟨v, pending⟩ :: rest)).head? = some start :=
      (h.foremost v _ List.suffix_rfl).first
    refine ⟨⟨?_, ?_⟩, ?_, ?_⟩
    · exact List.nodup_reverse.mpr hsearching.trail.nodup
    · exact List.isChain_reverse.mpr hsearching.trail.edges
    · rw [route_cons, List.head?_append, hfirst, Option.some_or]
    · rw [route_cons, List.getLast?_concat]
  have hpassed := h.passed.enter
  have hexplored : Explored g (fresh.erase w) (⟨w, g.successors w⟩ :: ⟨v, pending⟩ :: rest) :=
    Handled.enter h.explored h.searching.trail.freshNodup.not_mem_erase
      fun _ _ hx hm => hx (List.mem_of_mem_erase hm)
  refine ⟨hsearching, fun hm => h.startMet (List.mem_of_mem_erase hm), ?_, hlater, hexplored,
    hpassed.mono List.erase_subset, ?_⟩
  · exact List.forall_mem_cons.mpr ⟨hg w, List.forall_mem_cons.mpr ⟨hpending.of_cons, hrest⟩⟩
  · intro u ids hids
    rcases List.suffix_cons_iff.mp hids with heq | hids
    · obtain ⟨rfl, rfl⟩ := List.cons.inj heq
      exact ⟨hroute, fun q hq => not_lt_route hpassed hw hlater hroute hq⟩
    · exact h.foremost u ids hids

/-- The path of the search is the foremost path to its end. -/
theorem eq_route (h : Leading g start fresh (f :: rest)) {p : List String}
    (hp : g.IsForemost start f.id p) : p = route (f :: rest) :=
  hp.unique (h.foremost f.id _ List.suffix_rfl)

end Leading

theorem leading_start (hg : g.IsSorted) (start : String) :
    Leading g start (g.nodes.erase start) [⟨start, g.successors start⟩] where
  searching := searching_start g start
  startMet := g.nodes_nodup.not_mem_erase
  increasing := List.forall_mem_singleton.mpr (hg start)
  later := .singleton _
  explored := handled_start g start _
  passed := by
    refine ⟨fun x m hx _ hroute => ?_, trivial⟩
    exact absurd (List.isChain_cons_cons.mp hroute.edges).1 hx
  foremost v ids hids := by
    obtain ⟨rfl, rfl⟩ : v = start ∧ ids = [] := by
      have hlen := hids.length_le
      have hmem : v ∈ [start] := hids.subset List.mem_cons_self
      exact ⟨List.mem_singleton.mp hmem, List.length_eq_zero_iff.mp (by simpa using hlen)⟩
    exact isForemost_self v

/-- A cycle that a search closes runs along the end of a foremost path. -/
theorem exists_foremost_of_mem_search (hg : g.IsSorted) (h : Leading g start fresh path)
    (hc : c ∈ search g fresh path) :
    ∃ v p r, g.IsForemost start v p ∧ r <:+ p ∧ g.IsCycle r ∧ c = canonical r := by
  fun_induction search g fresh path with
  | case1 => exact absurd hc List.not_mem_nil
  | case2 fresh v rest ih => exact ih h.leave hc
  | case3 fresh v w pending rest hw ih => exact ih (h.enter hg hw) hc
  | case4 fresh v w pending rest hw cycle hs ih =>
    rcases List.mem_cons.mp hc with rfl | hc
    · obtain ⟨before, after, hids, rfl⟩ := since?_eq_some hs
      refine ⟨v, _, _, h.foremost v _ List.suffix_rfl, ?_, (h.searching.closes hs).1, rfl⟩
      refine ⟨after.reverse, ?_⟩
      change _ = (List.map Frame.id (⟨v, pending⟩ :: rest)).reverse
      rw [hids]
      simp
    · exact ih (h.drop hw) hc
  | case5 fresh v w pending rest hw hs ih => exact ih (h.drop hw) hc

/-- Every cycle is found that an edge from the end of a foremost path closes. -/
theorem mem_search_of_foremost (hg : g.IsSorted) (h : Leading g start fresh path)
    {found : List (List String)} (hclosed : Closed g start fresh path found) {p m : List String}
    (hp : g.IsForemost start v p) (hvw : g.Edge v w) (hm : w :: m <:+ p) :
    canonical (w :: m) ∈ found ++ search g fresh path := by
  fun_induction search g fresh path generalizing found with
  | case1 fresh =>
    have hmet : v ∉ fresh := Handled.met h.explored (fun _ _ => id) h.startMet hp.leads
    rcases hclosed v hmet w hvw with ⟨f, hf, -⟩ | hfound
    · exact absurd hf List.not_mem_nil
    · exact List.mem_append_left _ (hfound p m hp hm)
  | case2 fresh u rest ih => exact ih h.leave (Handled.leave hclosed)
  | case3 fresh u x pending rest hx ih =>
    refine ih (h.enter hg hx) (Handled.enter hclosed (fun p m hp hm => ?_) fun _ _ => id)
    -- The foremost path holds met nodes only.
    have hmem : x ∈ p := hm.subset List.mem_cons_self
    rw [h.eq_route hp, route, List.mem_reverse] at hmem
    exact absurd hx (h.searching.trail.met x hmem)
  | case4 fresh u x pending rest hx cycle hs ih =>
    have hnext : Closed g start fresh (⟨u, pending⟩ :: rest) (found ++ [canonical cycle]) := by
      refine Handled.drop hclosed (fun p m hp hm => ?_)
        fun _ _ hfound p m hp hm => List.mem_append_left _ (hfound p m hp hm)
      obtain ⟨before, after, hids, rfl⟩ := since?_eq_some hs
      have hcycle : x :: before.reverse <:+ p := by
        refine ⟨after.reverse, ?_⟩
        rw [(h.drop hx).eq_route hp, route, hids]
        simp
      rw [eq_of_suffix hp.nodup hm hcycle]
      simp
    simpa using ih (h.drop hx) hnext
  | case5 fresh u x pending rest hx hs ih =>
    refine ih (h.drop hx) (Handled.drop hclosed (fun p m hp hm => ?_) fun _ _ => id)
    have hmem : x ∈ p := hm.subset List.mem_cons_self
    rw [(h.drop hx).eq_route hp, route, List.mem_reverse] at hmem
    exact absurd hmem (not_mem_of_since?_eq_none hs)

theorem mem_searchFrom_iff (hg : g.IsSorted) : c ∈ searchFrom g start ↔
    ∃ v p r, g.IsForemost start v p ∧ r <:+ p ∧ g.IsCycle r ∧ c = canonical r := by
  constructor
  · exact exists_foremost_of_mem_search hg (leading_start hg start)
  · rintro ⟨v, p, r, hp, hr, hcycle, rfl⟩
    obtain ⟨w, m, rfl⟩ := List.exists_cons_of_ne_nil hcycle.ne_nil
    have hlast : (w :: m).getLast? = some v := by
      obtain ⟨t, rfl⟩ := hr
      rw [← hp.last, List.getLast?_append_of_ne_nil _ (List.cons_ne_nil w m)]
    have hclosed : Closed g start (g.nodes.erase start) [⟨start, g.successors start⟩] [] :=
      handled_start g start _
    exact mem_search_of_foremost hg (leading_start hg start) hclosed hp
      (hcycle.edges v w (.inr ⟨hlast, rfl⟩)) hr

end Cycles

namespace Adjacency

open Cycles

variable {g : Adjacency} {c d : List String} {x : String}

theorem IsCycle.of_isRotated (h : g.IsCycle c) (hd : c ~r d) : g.IsCycle d := by
  obtain ⟨l, m, rfl, rfl⟩ := exists_append_of_isRotated hd
  exact h.of_append

theorem isCycle_of_isChain {m : List String} (hn : (x :: m).Nodup)
    (h : (x :: m ++ [x]).IsChain g.Edge) : g.IsCycle (x :: m) := by
  refine ⟨List.cons_ne_nil x m, hn, fun a b hfollows => ?_⟩
  obtain ⟨hinner, -, hclosing⟩ := List.isChain_append.mp h
  rcases hfollows with hpair | ⟨ha, hb⟩
  · have hab : [a, b].IsChain g.Edge := List.IsChain.infix hinner hpair
    exact List.isChain_pair.mp hab
  · obtain rfl := Option.some.inj hb
    exact hclosing a ha x rfl

/-- An edge from the end of a foremost path back to the path closes the cycle. -/
def ClosesForemost (g : Adjacency) (c : List String) : Prop :=
  ∃ start v p r, g.IsForemost start v p ∧ r <:+ p ∧ r ~r c

/-- A path that ends with a cycle begins at a declared id. -/
theorem mem_keys_of_isCycle {start v : String} {p : List String} (hp : g.IsPath start v p)
    (hr : r <:+ p) (hcycle : g.IsCycle r) : start ∈ g.keys := by
  obtain ⟨m, rfl⟩ := List.head?_eq_some_iff.mp hp.first
  cases m with
  | nil =>
    rcases List.suffix_cons_iff.mp hr with rfl | hr
    · exact edge_mem_keys (hcycle.edges start start (.inr ⟨rfl, rfl⟩))
    · exact absurd (List.suffix_nil.mp hr) hcycle.ne_nil
  | cons x m => exact edge_mem_keys (List.isChain_cons_cons.mp hp.edges).1

/-- Of the cycles of a graph with sorted successors, those are listed that foremost paths run
through up to the last edge. -/
theorem mem_cycles_iff_closesForemost (hg : g.IsSorted) : c ∈ g.cycles ↔
    g.IsCycle c ∧ (∃ least, c.head? = some least ∧ ∀ id ∈ c, least ≤ id) ∧ g.ClosesForemost c := by
  constructor
  · intro hc
    obtain ⟨hcycle, hleast⟩ := isCycle_of_mem_cycles hc
    obtain ⟨start, -, hsearch⟩ := mem_cycles_iff.mp hc
    obtain ⟨v, p, r, hp, hr, hturned, rfl⟩ := (mem_searchFrom_iff hg).mp hsearch
    obtain ⟨l, m, _, rfl, hcanon, -⟩ := canonical_spec hturned.ne_nil
    exact ⟨hcycle, hleast, start, v, p, l ++ m, hp, hr, hcanon ▸ List.isRotated_append⟩
  · rintro ⟨hcycle, ⟨least, hhead, hleast⟩, start, v, p, r, hp, hr, hrc⟩
    have hturned : g.IsCycle r := hcycle.of_isRotated hrc.symm
    refine mem_cycles_iff.mpr ⟨start, mem_keys_of_isCycle hp.toIsPath hr hturned, ?_⟩
    refine (mem_searchFrom_iff hg).mpr ⟨v, p, r, hp, hr, hturned, ?_⟩
    exact (canonical_eq_of_isRotated hrc hcycle.nodup hhead hleast).symm

instance (g : Adjacency) : DecidableRel g.Edge := fun a b =>
  inferInstanceAs (Decidable (b ∈ g.successors a))

/-- No foremost path runs along the longest cycle: each turn of it takes the way over `c` where its
last id has a way without `c`. -/
theorem mem_cycles_iff_closesForemost_missed :
    let g : Adjacency := ⟨[("a", ["b", "c"]), ("b", ["a", "d"]), ("c", ["b"]), ("d", ["a"])],
      by decide⟩
    g.IsSorted ∧ g.IsCycle ["a", "c", "b", "d"] ∧ ["a", "c", "b", "d"] ∉ g.cycles := by
  intro g
  have hsorted : g.IsSorted := isSorted_iff.mpr (by decide)
  have hcycle : g.IsCycle ["a", "c", "b", "d"] := isCycle_of_isChain (by decide) (by decide)
  refine ⟨hsorted, hcycle, fun hmem => ?_⟩
  obtain ⟨-, -, start, v, p, r, hp, ⟨t, rfl⟩, hr⟩ := (mem_cycles_iff_closesForemost hsorted).mp hmem
  have hkeys : ∀ id ∈ g.keys, id ∈ r := fun id hid => hr.mem_iff.mpr (by revert id; decide)
  -- Whatever came before the turn on the path would be an id of the turn.
  obtain rfl : t = [] := by
    rcases List.eq_nil_or_concat t with rfl | ⟨t, z, rfl⟩
    · rfl
    · have hne : r ≠ [] := (hcycle.of_isRotated hr.symm).ne_nil
      have hedge : g.Edge z (r.head hne) :=
        (List.isChain_append.mp hp.edges).2.2 z (by simp) _ (List.head_mem_head? hne)
      exact absurd (hkeys z (edge_mem_keys hedge))
        (List.disjoint_of_nodup_append hp.nodup (by simp))
  obtain ⟨n, hn, rfl⟩ := List.isRotated_iff_mod.mp hr.symm
  have hbefore : ∀ q, q.Nodup → q.IsChain g.Edge → q.head? = some start → q.getLast? = some v →
      ¬ q < ["a", "c", "b", "d"].rotate n := fun q hq hedges hfirst hlast =>
    hp.least q ⟨⟨hq, hedges⟩, hfirst, hlast⟩
  have hfirst := hp.first
  have hlast := hp.last
  change n ≤ 4 at hn
  interval_cases n <;> cases hfirst <;> cases hlast
  · exact hbefore ["a", "b", "d"] (by decide) (by decide) rfl rfl (by decide)
  · exact hbefore ["c", "b", "a"] (by decide) (by decide) rfl rfl (by decide)
  · exact hbefore ["b", "a", "c"] (by decide) (by decide) rfl rfl (by decide)
  · exact hbefore ["d", "a", "b"] (by decide) (by decide) rfl rfl (by decide)
  · exact hbefore ["a", "b", "d"] (by decide) (by decide) rfl rfl (by decide)

end Adjacency

end TagAtlas
