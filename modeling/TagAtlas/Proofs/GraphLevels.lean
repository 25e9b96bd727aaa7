import TagAtlas.Graph.Levels
import TagAtlas.Proofs.GraphPaths

/-!
# Levels are heights above the bottom

The search gives a level to every node once. While a node waits for some of its successors, its
level is right for the others: it is above all of them that do not lead back to the node, and just
above one of them unless it is zero. A successor on the path is passed over, and it leads back
because the path is a trail. So at the end every edge that is on no cycle goes down, and without
cycles a level is the length of the longest path.
-/

namespace TagAtlas

namespace Levels

open Relation

/-- A level of a node that is right for the successors that are not waited for. -/
structure Ranks (g : Adjacency) (fresh : List String) (done : Dict Nat) (waiting : List String)
    (v : String) (level : Nat) : Prop where
  met : ∀ w, g.Edge v w → w ∈ waiting ∨ w ∉ fresh
  attained : ∀ k, level = k + 1 → ∃ w, g.Edge v w ∧ done.find? w = some k
  above : ∀ w, g.Edge v w →
    w ∈ waiting ∨ ReflTransGen g.Edge w v ∨ ∃ k, done.find? w = some k ∧ k < level

variable {g : Adjacency} {fresh fresh' waiting ids : List String} {done done' : Dict Nat}
  {v w : String} {level below : Nat} {path rest : List Frame}

namespace Ranks

theorem start : Ranks g fresh done (g.successors v) v 0 where
  met _ hw := .inl hw
  attained k hk := by omega
  above _ hw := .inl hw

theorem mono (h : Ranks g fresh done waiting v level) (hfresh : ∀ w ∈ fresh', w ∈ fresh)
    (hdone : ∀ w k, done.find? w = some k → done'.find? w = some k) :
    Ranks g fresh' done' waiting v level where
  met w hw := (h.met w hw).imp_right fun hn hm => hn (hfresh w hm)
  attained k hk := by
    obtain ⟨w, hw, hf⟩ := h.attained k hk
    exact ⟨w, hw, hdone w k hf⟩
  above w hw := by
    rcases h.above w hw with hwait | hback | ⟨k, hf, hk⟩
    · exact .inl hwait
    · exact .inr (.inl hback)
    · exact .inr (.inr ⟨k, hdone w k hf, hk⟩)

theorem met_tail (h : Ranks g fresh done (w :: waiting) v level) (hw : w ∉ fresh) (x : String)
    (hx : g.Edge v x) : x ∈ waiting ∨ x ∉ fresh := by
  rcases h.met x hx with hm | hn
  · rcases List.mem_cons.mp hm with rfl | hm
    · exact .inr hw
    · exact .inl hm
  · exact .inr hn

/-- A successor that leads back is passed over. -/
theorem skip (h : Ranks g fresh done (w :: waiting) v level) (hw : w ∉ fresh)
    (hback : ReflTransGen g.Edge w v) : Ranks g fresh done waiting v level where
  met := h.met_tail hw
  attained := h.attained
  above x hx := by
    rcases h.above x hx with hm | hrest
    · rcases List.mem_cons.mp hm with rfl | hm
      · exact .inr (.inl hback)
      · exact .inl hm
    · exact .inr hrest

theorem compare (h : Ranks g fresh done (w :: waiting) v level) (hvw : g.Edge v w) (hw : w ∉ fresh)
    (hf : done.find? w = some below) : Ranks g fresh done waiting v (max level (below + 1)) where
  met := h.met_tail hw
  attained k hk := by
    by_cases hmax : level = k + 1
    · exact h.attained k hmax
    · have hbelow : below = k := by omega
      exact ⟨w, hvw, hbelow ▸ hf⟩
  above x hx := by
    rcases h.above x hx with hm | hback | ⟨k, hk, hlt⟩
    · rcases List.mem_cons.mp hm with rfl | hm
      · exact .inr (.inr ⟨below, hf, by omega⟩)
      · exact .inl hm
    · exact .inr (.inl hback)
    · exact .inr (.inr ⟨k, hk, by omega⟩)

end Ranks

/-- The levels along a path are right; each node but the last also waits for the next one. -/
def Along (g : Adjacency) (fresh : List String) (done : Dict Nat) :
    List String → List Frame → Prop
  | _, [] => True
  | next, f :: rest =>
    Ranks g fresh done (next ++ f.pending) f.id f.level ∧ Along g fresh done [f.id] rest

theorem Along.mono {next : List String} (h : Along g fresh done next path)
    (hfresh : ∀ w ∈ fresh', w ∈ fresh)
    (hdone : ∀ w k, done.find? w = some k → done'.find? w = some k) :
    Along g fresh' done' next path := by
  induction path generalizing next with
  | nil => trivial
  | cons f rest ih => exact ⟨h.1.mono hfresh hdone, ih h.2⟩

/-- What holds at every moment of the search. -/
structure Settling (g : Adjacency) (fresh : List String) (done : Dict Nat) (path : List Frame) :
    Prop where
  trail : g.Trail fresh (path.map Frame.id)
  pathNodes : ∀ f ∈ path, f.id ∈ g.nodes
  pending : ∀ f ∈ path, ∀ w ∈ f.pending, g.Edge f.id w
  doneNodes : ∀ w, done.contains w = true → w ∈ g.nodes
  doneApart : ∀ w, done.contains w = true → w ∉ fresh ∧ w ∉ path.map Frame.id
  accounted : ∀ w ∈ g.nodes, w ∈ fresh ∨ done.contains w = true ∨ w ∈ path.map Frame.id
  ranks : ∀ v k, done.find? v = some k → Ranks g fresh done [] v k
  along : Along g fresh done [] path

theorem map_id_raise (level : Nat) (path : List Frame) :
    (raise level path).map Frame.id = path.map Frame.id := by
  cases path <;> rfl

theorem exists_mem_of_mem_raise {f : Frame} (h : f ∈ raise level path) :
    ∃ f' ∈ path, f'.id = f.id ∧ f'.pending = f.pending := by
  cases path with
  | nil => simp [raise] at h
  | cons u rest =>
    rcases List.mem_cons.mp h with rfl | h
    · exact ⟨u, List.mem_cons_self, rfl, rfl⟩
    · exact ⟨f, List.mem_cons_of_mem _ h, rfl, rfl⟩

theorem contains_of_find? (h : done.find? v = some level) : done.contains v = true := by
  simp [Dict.contains, h]

theorem find?_insert_new (hv : done.contains v = false) (h : done.find? w = some below) :
    (done.insert v level).find? w = some below := by
  have hne : w ≠ v := fun he => by simp [← he, contains_of_find? h] at hv
  simp [hne, h]

namespace Settling

theorem leave (h : Settling g fresh done (⟨v, [], level⟩ :: rest)) :
    Settling g fresh (done.insert v level) (raise level rest) := by
  have hnew : done.contains v = false := by
    by_contra hc
    exact (h.doneApart v (by simpa using hc)).2 List.mem_cons_self
  have hkeep : ∀ w k, done.find? w = some k → (done.insert v level).find? w = some k :=
    fun _ _ hw => find?_insert_new hnew hw
  have hsame : ∀ w ∈ fresh, w ∈ fresh := fun _ => id
  have hv := (h.along.1).mono hsame hkeep
  have hfresh : v ∉ fresh := h.trail.met v List.mem_cons_self
  have hpath : v ∉ rest.map Frame.id := (List.nodup_cons.mp h.trail.nodup).1
  refine ⟨?_, ?_, ?_, ?_, ?_, ?_, ?_, ?_⟩
  · rw [map_id_raise]
    exact h.trail.leave
  · intro f hf
    obtain ⟨f', hf', hid, _⟩ := exists_mem_of_mem_raise hf
    exact hid ▸ h.pathNodes f' (List.mem_cons_of_mem _ hf')
  · intro f hf w hw
    obtain ⟨f', hf', hid, hpending⟩ := exists_mem_of_mem_raise hf
    exact hid ▸ h.pending f' (List.mem_cons_of_mem _ hf') w (hpending ▸ hw)
  · intro w hw
    rcases (by simpa using hw : w = v ∨ done.contains w = true) with rfl | hw
    · exact h.pathNodes _ List.mem_cons_self
    · exact h.doneNodes w hw
  · intro w hw
    rw [map_id_raise]
    rcases (by simpa using hw : w = v ∨ done.contains w = true) with rfl | hw
    · exact ⟨hfresh, hpath⟩
    · have hapart := h.doneApart w hw
      exact ⟨hapart.1, fun hm => hapart.2 (List.mem_cons_of_mem _ hm)⟩
  · intro w hw
    rw [map_id_raise]
    rcases h.accounted w hw with hf | hd | hp
    · exact .inl hf
    · exact .inr (.inl (by simp [hd]))
    · rcases List.mem_cons.mp hp with rfl | hp
      · exact .inr (.inl (by simp))
      · exact .inr (.inr hp)
  · intro w k hw
    by_cases he : w = v
    · subst he
      have hk : level = k := by simpa using hw
      exact hk ▸ hv
    · exact (h.ranks w k (by simpa [he] using hw)).mono hsame hkeep
  · cases rest with
    | nil => trivial
    | cons u rest =>
      have huv : g.Edge u.id v := (List.isChain_cons_cons.mp h.trail.edges).1
      have hu := h.along.2.1.mono hsame hkeep
      have hlast : (done.insert v level).find? v = some level := by simp
      exact ⟨hu.compare huv hfresh hlast, h.along.2.2.mono hsame hkeep⟩

theorem enter {pending : List String} (h : Settling g fresh done (⟨v, w :: pending, level⟩ :: rest))
    (hw : w ∈ fresh) :
    Settling g (fresh.erase w) done
      (⟨w, g.successors w, 0⟩ :: ⟨v, pending, level⟩ :: rest) := by
  have hvw : g.Edge v w := h.pending _ List.mem_cons_self w List.mem_cons_self
  have hless : ∀ x ∈ fresh.erase w, x ∈ fresh := fun _ => List.mem_of_mem_erase
  have hsame : ∀ x k, done.find? x = some k → done.find? x = some k := fun _ _ => id
  obtain ⟨hnode, hnodes⟩ := List.forall_mem_cons.mp h.pathNodes
  obtain ⟨hpending, hothers⟩ := List.forall_mem_cons.mp h.pending
  refine ⟨h.trail.enter hvw hw, ?_, ?_, h.doneNodes, ?_, ?_, ?_, ?_⟩
  · have htarget : w ∈ g.nodes := Adjacency.target_mem_nodes hvw
    exact List.forall_mem_cons.mpr ⟨htarget, List.forall_mem_cons.mpr ⟨hnode, hnodes⟩⟩
  · have htail : ∀ x ∈ pending, g.Edge v x := fun x hx => hpending x (List.mem_cons_of_mem _ hx)
    exact List.forall_mem_cons.mpr ⟨fun _ hx => hx, List.forall_mem_cons.mpr ⟨htail, hothers⟩⟩
  · intro x hx
    have hapart := h.doneApart x hx
    refine ⟨fun hm => hapart.1 (hless x hm), ?_⟩
    intro hm
    rcases List.mem_cons.mp hm with rfl | hm
    · exact hapart.1 hw
    · exact hapart.2 hm
  · intro x hx
    rcases h.accounted x hx with hf | hd | hp
    · by_cases he : x = w
      · exact .inr (.inr (he ▸ List.mem_cons_self))
      · exact .inl ((List.mem_erase_of_ne he).mpr hf)
    · exact .inr (.inl hd)
    · exact .inr (.inr (List.mem_cons_of_mem _ hp))
  · exact fun x k hx => (h.ranks x k hx).mono hless hsame
  · exact ⟨.start, h.along.1.mono hless hsame, h.along.2.mono hless hsame⟩

/-- The last node of the path need not wait for a successor any longer. -/
theorem drop {pending : List String} {level' : Nat}
    (h : Settling g fresh done (⟨v, w :: pending, level⟩ :: rest))
    (hv : Ranks g fresh done pending v level') :
    Settling g fresh done (⟨v, pending, level'⟩ :: rest) where
  trail := h.trail
  pathNodes := by
    obtain ⟨hnode, hnodes⟩ := List.forall_mem_cons.mp h.pathNodes
    exact List.forall_mem_cons.mpr ⟨hnode, hnodes⟩
  pending := by
    obtain ⟨hpending, hothers⟩ := List.forall_mem_cons.mp h.pending
    exact List.forall_mem_cons.mpr ⟨fun x hx => hpending x (List.mem_cons_of_mem _ hx), hothers⟩
  doneNodes := h.doneNodes
  doneApart := h.doneApart
  accounted := h.accounted
  ranks := h.ranks
  along := ⟨hv, h.along.2⟩

/-- A successor that is neither to be met nor finished lies on the path. -/
theorem leads_back {pending : List String}
    (h : Settling g fresh done (⟨v, w :: pending, level⟩ :: rest)) (hw : w ∉ fresh)
    (hf : done.find? w = none) : ReflTransGen g.Edge w v := by
  have hvw : g.Edge v w := h.pending _ List.mem_cons_self w List.mem_cons_self
  rcases h.accounted w (Adjacency.target_mem_nodes hvw) with hm | hd | hp
  · exact absurd hm hw
  · simp [Dict.contains, hf] at hd
  · exact h.trail.leads hp

end Settling

theorem settle_spec (h : Settling g fresh done path) :
    ∃ fresh', (∀ w ∈ fresh', w ∈ fresh) ∧ Settling g fresh' (settle g fresh done path) [] := by
  fun_induction settle g fresh done path with
  | case1 fresh done => exact ⟨fresh, fun _ => id, h⟩
  | case2 fresh done v level rest ih => exact ih h.leave
  | case3 fresh done v w pending level rest hw ih =>
    obtain ⟨fresh', hsub, hout⟩ := ih (h.enter hw)
    exact ⟨fresh', fun x hx => List.mem_of_mem_erase (hsub x hx), hout⟩
  | case4 fresh done v w pending level rest hw below hf ih =>
    have hvw : g.Edge v w := h.pending _ List.mem_cons_self w List.mem_cons_self
    exact ih (h.drop (h.along.1.compare hvw hw hf))
  | case5 fresh done v w pending level rest hw hf ih =>
    exact ih (h.drop (h.along.1.skip hw (h.leads_back hw hf)))

def unmet (g : Adjacency) (done : Dict Nat) : List String :=
  g.nodes.filter fun v => !done.contains v

/-- What holds between the searches from two ids: no path is open. -/
def Settled (g : Adjacency) (done : Dict Nat) : Prop := Settling g (unmet g done) done []

theorem mem_unmet_iff : w ∈ unmet g done ↔ w ∈ g.nodes ∧ done.contains w = false := by
  simp [unmet]

theorem Settling.settled (h : Settling g fresh done []) : Settled g done where
  trail := ⟨.nil, .nil, g.nodes_nodup.filter _, by simp⟩
  pathNodes := by simp
  pending := by simp
  doneNodes := h.doneNodes
  doneApart w hw := ⟨fun hm => by simp [(mem_unmet_iff.mp hm).2] at hw, by simp⟩
  accounted w hw := by
    cases hd : done.contains w with
    | false => exact .inl (mem_unmet_iff.mpr ⟨hw, hd⟩)
    | true => exact .inr (.inl rfl)
  ranks v k hv := by
    refine (h.ranks v k hv).mono ?_ fun _ _ => id
    intro w hw
    obtain ⟨hn, hd⟩ := mem_unmet_iff.mp hw
    rcases h.accounted w hn with hf | hc | hp
    · exact hf
    · simp [hd] at hc
    · simp at hp
  along := trivial

namespace Settled

theorem empty : Settled g .empty where
  trail := ⟨.nil, .nil, g.nodes_nodup.filter _, by simp⟩
  pathNodes := by simp
  pending := by simp
  doneNodes w hw := by simp [Dict.contains] at hw
  doneApart w hw := by simp [Dict.contains] at hw
  accounted w hw := .inl (mem_unmet_iff.mpr ⟨hw, rfl⟩)
  ranks v k hv := by simp at hv
  along := trivial

/-- A search from a node that has no level. -/
theorem start (h : Settled g done) (hv : v ∈ unmet g done) :
    Settling g ((unmet g done).erase v) done [⟨v, g.successors v, 0⟩] := by
  obtain ⟨hnode, hnew⟩ := mem_unmet_iff.mp hv
  have hless : ∀ x ∈ (unmet g done).erase v, x ∈ unmet g done := fun _ => List.mem_of_mem_erase
  refine ⟨?_, ?_, ?_, h.doneNodes, ?_, ?_, ?_, ?_⟩
  · exact .start (h.trail.freshNodup.erase v) h.trail.freshNodup.not_mem_erase
  · simpa using hnode
  · simp [Adjacency.Edge]
  · intro w hw
    have hne : w ≠ v := fun he => by simp [← he, hw] at hnew
    exact ⟨fun hm => (h.doneApart w hw).1 (hless w hm), by simpa using hne⟩
  · intro w hw
    rcases h.accounted w hw with hf | hd | hp
    · by_cases he : w = v
      · exact .inr (.inr (by simp [he]))
      · exact .inl ((List.mem_erase_of_ne he).mpr hf)
    · exact .inr (.inl hd)
    · simp at hp
  · exact fun x k hx => (h.ranks x k hx).mono hless fun _ _ => id
  · exact ⟨.start, trivial⟩

theorem visit_spec (h : Settled g done) (hv : v ∈ g.nodes) :
    Settled g (visit g done v) ∧ (visit g done v).contains v = true ∧
      ∀ w, done.contains w = true → (visit g done v).contains w = true := by
  unfold visit
  split
  next hc => exact ⟨h, hc, fun _ => id⟩
  next hc =>
    have hnew : done.contains v = false := by simpa using hc
    have hmem : v ∈ unmet g done := mem_unmet_iff.mpr ⟨hv, hnew⟩
    have hstart := h.start hmem
    obtain ⟨fresh', hsub, hout⟩ := settle_spec hstart
    have hall : ∀ w ∈ g.nodes, w ∉ (unmet g done).erase v →
        (settle g ((unmet g done).erase v) done [⟨v, g.successors v, 0⟩]).contains w = true := by
      intro w hw hnot
      rcases hout.accounted w hw with hf | hd | hp
      · exact absurd (hsub w hf) hnot
      · exact hd
      · simp at hp
    refine ⟨hout.settled, hall v hv h.trail.freshNodup.not_mem_erase, ?_⟩
    exact fun w hw => hall w (h.doneNodes w hw) (hstart.doneApart w hw).1

theorem foldl_visit (h : Settled g done) (hids : ∀ v ∈ ids, v ∈ g.nodes) :
    Settled g (ids.foldl (visit g) done) ∧
      ∀ w, w ∈ ids ∨ done.contains w = true → (ids.foldl (visit g) done).contains w = true := by
  induction ids generalizing done with
  | nil => exact ⟨h, by simp⟩
  | cons v rest ih =>
    obtain ⟨hv, hrest⟩ := List.forall_mem_cons.mp hids
    obtain ⟨hnext, hself, hkeep⟩ := h.visit_spec hv
    obtain ⟨hout, hall⟩ := ih hnext hrest
    refine ⟨hout, ?_⟩
    rintro w (hw | hw)
    · rcases List.mem_cons.mp hw with rfl | hw
      · exact hall w (.inr hself)
      · exact hall w (.inl hw)
    · exact hall w (.inr (hkeep w hw))

end Settled

end Levels

namespace Adjacency

open Relation Levels

variable {g : Adjacency} {n m : String} {i j k : Nat}

theorem settled_levels (g : Adjacency) : Settled g g.levels :=
  (Settled.empty.foldl_visit fun _ hv => mem_nodes_iff.mpr (.inl (Dict.mem_keys_iff.mp hv))).1

theorem contains_levels_of_declared (h : g.contains n = true) : g.levels.contains n = true :=
  (Settled.empty.foldl_visit fun _ hv => mem_nodes_iff.mpr (.inl (Dict.mem_keys_iff.mp hv))).2 n
    (.inl (Dict.mem_keys_iff.mpr h))

theorem contains_levels_of_edge (hn : g.levels.contains n = true) (h : g.Edge n m) :
    g.levels.contains m = true := by
  obtain ⟨i, hi⟩ := Option.isSome_iff_exists.mp hn
  rcases (g.settled_levels.ranks n i hi).met m h with hwait | hmet
  · simp at hwait
  · rcases g.settled_levels.accounted m (target_mem_nodes h) with hf | hd | hp
    · exact absurd hf hmet
    · exact hd
    · simp at hp

theorem contains_levels_iff :
    g.levels.contains n = true ↔ g.contains n = true ∨ ∃ m, g.Edge m n := by
  constructor
  · exact fun h => mem_nodes_iff.mp (g.settled_levels.doneNodes n h)
  · rintro (h | ⟨m, hm⟩)
    · exact contains_levels_of_declared h
    · have hdeclared : g.contains m = true := Dict.mem_keys_iff.mp (edge_mem_keys hm)
      exact contains_levels_of_edge (contains_levels_of_declared hdeclared) hm

theorem exists_level_below (h : g.levels.find? n = some (k + 1)) :
    ∃ m, g.Edge n m ∧ g.levels.find? m = some k :=
  (g.settled_levels.ranks n (k + 1) h).attained k rfl

/-- An edge that is on no cycle goes down. -/
theorem level_lt_of_edge (h : g.Edge n m) (hback : ¬ ReflTransGen g.Edge m n)
    (hi : g.levels.find? n = some i) : ∃ j, g.levels.find? m = some j ∧ j < i := by
  rcases (g.settled_levels.ranks n i hi).above m h with hwait | hb | hlt
  · simp at hwait
  · exact absurd hb hback
  · exact hlt

/-- Below a node of some level there is one of each smaller level. -/
theorem exists_level_of_le (h : g.levels.find? n = some k) (hj : j ≤ k) :
    ∃ m, g.levels.find? m = some j := by
  induction k generalizing n with
  | zero => exact ⟨n, by rw [h, Nat.le_zero.mp hj]⟩
  | succ k ih =>
    by_cases he : j = k + 1
    · exact ⟨n, he ▸ h⟩
    · obtain ⟨m, _, hm⟩ := exists_level_below h
      exact ih hm (by omega)

theorem level_lt_size (h : g.levels.find? n = some k) : k < g.levels.size := by
  have hsub : List.range (k + 1) ⊆ g.levels.values := by
    intro j hj
    exact Dict.mem_values_iff.mpr (exists_level_of_le h (by simpa [Nat.lt_succ_iff] using hj))
  have hlen := (List.nodup_range.subperm hsub).length_le
  simp only [List.length_range, Dict.values, List.length_map] at hlen
  exact hlen

theorem Acyclic.ranking_levels (h : g.Acyclic) :
    Ranking g.Edge fun n k => g.levels.find? n = some k where
  falls a _ _ ha hab := level_lt_of_edge hab (fun hback => h a (.head' hab hback)) ha
  attained _ _ ha := exists_level_below ha

/-- Levels of the nodes of a graph, which may have cycles. -/
structure IsLeveling (g : Adjacency) (levels : Dict Nat) : Prop where
  nodes : ∀ n, levels.contains n = true ↔ g.contains n = true ∨ ∃ m, g.Edge m n
  bounded : ∀ n k, levels.find? n = some k → k < levels.size
  attained : ∀ n k, levels.find? n = some (k + 1) → ∃ m, g.Edge n m ∧ levels.find? m = some k
  falls : ∀ n m, g.Edge n m → ¬ ReflTransGen g.Edge m n →
    ∃ i j, levels.find? n = some i ∧ levels.find? m = some j ∧ j < i
  longest : g.Acyclic → ∀ n k, levels.find? n = some k → LongestChain g.Edge n k

theorem isLeveling_levels (g : Adjacency) : g.IsLeveling g.levels where
  nodes _ := contains_levels_iff
  bounded _ _ h := level_lt_size h
  attained _ _ h := exists_level_below h
  falls n m h hback := by
    have hn : g.levels.contains n = true :=
      contains_levels_of_declared (Dict.mem_keys_iff.mp (edge_mem_keys h))
    obtain ⟨i, hi⟩ := Option.isSome_iff_exists.mp hn
    obtain ⟨j, hj, hlt⟩ := level_lt_of_edge h hback hi
    exact ⟨i, j, hi, hj, hlt⟩
  longest h _ _ hk := h.ranking_levels.longestChain hk

end Adjacency

end TagAtlas
