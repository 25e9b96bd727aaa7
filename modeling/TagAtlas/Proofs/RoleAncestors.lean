import TagAtlas.Access.Hierarchy
import TagAtlas.Proofs.GraphReachability

/-!
# The roles that declared roles stand for

The walk up the hierarchy leaves a role only after all its active parents are left, so what it
collects is closed under active parents; and it enters a role only along active parents of roles
that it has entered. Hence it collects exactly what unbroken chains of active roles lead to. In an
acyclic hierarchy it never comes back to a role on its path, and so never fails.
-/

namespace TagAtlas.Roles

open Relation

def Parent (roles : Roles) (a b : String) : Prop := ∃ r, roles.find? a = some r ∧ b ∈ r.parents

/-- A role matches unless it is stored and not active. -/
def Active (roles : Roles) (id : String) : Prop := ∀ r, roles.find? id = some r → r.active = true

/-- A step of an unbroken chain leads to an active parent. -/
def Climbs (roles : Roles) (a b : String) : Prop := roles.Parent a b ∧ roles.Active b

/-- No role inherits from itself, however indirectly. -/
def Acyclic (roles : Roles) : Prop := ∀ id, ¬ TransGen roles.Parent id id

/-- What some declared roles stand for: with a hierarchy all that unbroken chains of active roles
lead to, without one the active ones among themselves. -/
def Stands (roles : Roles) (hierarchical : Bool) (declared : List String) (id : String) : Prop :=
  if hierarchical then ∃ d ∈ declared, roles.Active d ∧ ReflTransGen roles.Climbs d id
  else id ∈ declared ∧ roles.Active id

variable {roles : Roles}

theorem isActive_iff {id : String} : roles.isActive id = true ↔ roles.Active id := by
  unfold isActive Active
  cases roles.find? id <;> simp

theorem edge_parentLists_iff {a b : String} : roles.parentLists.Edge a b ↔ roles.Parent a b := by
  simp [Adjacency.edge_iff, parentLists, Parent]

theorem mem_parentsOf_iff {a b : String} : b ∈ roles.parentsOf a ↔ roles.Parent a b :=
  edge_parentLists_iff

/-! ### The walk along a path -/

/-- Every active parent of a role waits, or was left, or lies on the path. -/
def Accounted (roles : Roles) (pending done : List String) (path : List Climber) (v : String) :
    Prop :=
  ∀ p, roles.Climbs v p → p ∈ pending ∨ p ∈ done ∨ p ∈ path.map Climber.id

def Closed (roles : Roles) (done : List String) : Prop :=
  ∀ v ∈ done, ∀ p, roles.Climbs v p → p ∈ done

namespace Accounted

variable {pending waiting done : List String} {path rest : List Climber} {u v p : String}

/-- A role that is left is found among those that were left, and no more on the path. -/
theorem leave (h : roles.Accounted waiting done (⟨v, pending⟩ :: rest) u) :
    roles.Accounted waiting (v :: done) rest u := by
  intro b hb
  rcases h b hb with hw | hd | hpath
  · exact .inl hw
  · exact .inr (.inl (List.mem_cons_of_mem _ hd))
  · rcases List.mem_cons.mp hpath with rfl | hrest
    · exact .inr (.inl List.mem_cons_self)
    · exact .inr (.inr hrest)

theorem enter (h : roles.Accounted waiting done (⟨v, p :: pending⟩ :: rest) u) (ids : List String) :
    roles.Accounted waiting done (⟨p, ids⟩ :: ⟨v, pending⟩ :: rest) u := by
  intro b hb
  rcases h b hb with hw | hd | hpath
  · exact .inl hw
  · exact .inr (.inl hd)
  · exact .inr (.inr (List.mem_cons_of_mem _ hpath))

/-- A parent need not wait any longer when it is accounted for without waiting. -/
theorem drop (h : roles.Accounted (p :: waiting) done path u)
    (hp : roles.Climbs u p → p ∈ done ∨ p ∈ path.map Climber.id) :
    roles.Accounted waiting done path u := by
  intro b hb
  rcases h b hb with hw | hrest
  · rcases List.mem_cons.mp hw with rfl | hw
    · exact .inr (hp hb)
    · exact .inl hw
  · exact .inr hrest

end Accounted

theorem climb_closed {fresh done out : List String} {path : List Climber}
    (hdone : ∀ v ∈ done, roles.Accounted [] done path v)
    (hpath : ∀ c ∈ path, roles.Accounted c.pending done path c.id)
    (h : roles.climb fresh done path = .ok out) : roles.Closed out := by
  fun_induction climb roles fresh done path with
  | case1 fresh done =>
    cases h
    intro v hv p hp
    simpa using hdone v hv p hp
  | case2 fresh done v rest ih =>
    obtain ⟨hv, hrest⟩ := List.forall_mem_cons.mp hpath
    refine ih ?_ (fun c hc => (hrest c hc).leave) h
    exact List.forall_mem_cons.mpr ⟨hv.leave, fun u hu => (hdone u hu).leave⟩
  | case3 fresh done v p pending rest hp hact ih =>
    obtain ⟨hv, hrest⟩ := List.forall_mem_cons.mp hpath
    have hentered : roles.Accounted (roles.parentsOf p) done
        (⟨p, roles.parentsOf p⟩ :: ⟨v, pending⟩ :: rest) p :=
      fun b hb => .inl (mem_parentsOf_iff.mpr hb.1)
    have hv' : roles.Accounted pending done (⟨p, roles.parentsOf p⟩ :: ⟨v, pending⟩ :: rest) v :=
      (hv.enter _).drop fun _ => .inr List.mem_cons_self
    refine ih (fun u hu => (hdone u hu).enter _) ?_ h
    exact List.forall_mem_cons.mpr
      ⟨hentered, List.forall_mem_cons.mpr ⟨hv', fun c hc => (hrest c hc).enter _⟩⟩
  | case4 fresh done v p pending rest hp hact ih =>
    obtain ⟨hv, hrest⟩ := List.forall_mem_cons.mp hpath
    refine ih hdone (List.forall_mem_cons.mpr ⟨?_, hrest⟩) h
    exact hv.drop fun hclimbs => absurd (isActive_iff.mpr hclimbs.2) hact
  | case5 fresh done v p pending rest hp hd ih =>
    obtain ⟨hv, hrest⟩ := List.forall_mem_cons.mp hpath
    refine ih hdone (List.forall_mem_cons.mpr ⟨?_, hrest⟩) h
    exact hv.drop fun _ => .inl hd
  | case6 => cases h

theorem mem_climb {fresh done out : List String} {path : List Climber}
    (h : roles.climb fresh done path = .ok out) :
    (∀ v ∈ done, v ∈ out) ∧ ∀ c ∈ path, c.id ∈ out := by
  fun_induction climb roles fresh done path with
  | case1 fresh done => cases h; simp
  | case2 fresh done v rest ih =>
    obtain ⟨hd, hp⟩ := ih h
    refine ⟨fun u hu => hd u (List.mem_cons_of_mem _ hu), ?_⟩
    intro c hc
    rcases List.mem_cons.mp hc with rfl | hc
    · exact hd _ List.mem_cons_self
    · exact hp c hc
  | case3 fresh done v p pending rest hf hact ih =>
    obtain ⟨hd, hp⟩ := ih h
    refine ⟨hd, ?_⟩
    intro c hc
    rcases List.mem_cons.mp hc with rfl | hc
    · exact hp ⟨v, pending⟩ (by simp)
    · exact hp c (by simp [hc])
  | case4 fresh done v p pending rest hf hact ih =>
    simpa using ih h
  | case5 fresh done v p pending rest hf hd ih =>
    simpa using ih h
  | case6 => cases h

/-- A property that passes to active parents, and that holds of what was left and of the path,
holds of all that is collected. -/
theorem climb_forall {P : String → Prop} (hP : ∀ a b, roles.Climbs a b → P a → P b)
    {fresh done out : List String} {path : List Climber} (hdone : ∀ v ∈ done, P v)
    (hpath : ∀ c ∈ path, P c.id ∧ ∀ p ∈ c.pending, roles.Parent c.id p)
    (h : roles.climb fresh done path = .ok out) : ∀ v ∈ out, P v := by
  fun_induction climb roles fresh done path with
  | case1 fresh done => cases h; exact hdone
  | case2 fresh done v rest ih =>
    refine ih ?_ (fun c hc => hpath c (List.mem_cons_of_mem _ hc)) h
    intro u hu
    rcases List.mem_cons.mp hu with rfl | hu
    · exact (hpath _ List.mem_cons_self).1
    · exact hdone u hu
  | case3 fresh done v p pending rest hf hact ih =>
    obtain ⟨hv, hpend⟩ := hpath _ List.mem_cons_self
    refine ih hdone ?_ h
    intro c hc
    rcases List.mem_cons.mp hc with rfl | hc
    · refine ⟨hP v p ⟨hpend p List.mem_cons_self, isActive_iff.mp hact⟩ hv, ?_⟩
      exact fun b hb => mem_parentsOf_iff.mp hb
    · rcases List.mem_cons.mp hc with rfl | hc
      · exact ⟨hv, fun b hb => hpend b (List.mem_cons_of_mem _ hb)⟩
      · exact hpath c (List.mem_cons_of_mem _ hc)
  | case4 fresh done v p pending rest hf hact ih =>
    obtain ⟨hv, hpend⟩ := hpath _ List.mem_cons_self
    refine ih hdone (List.forall_mem_cons.mpr ⟨⟨hv, ?_⟩, ?_⟩) h
    · exact fun b hb => hpend b (List.mem_cons_of_mem _ hb)
    · exact fun c hc => hpath c (List.mem_cons_of_mem _ hc)
  | case5 fresh done v p pending rest hf hd ih =>
    obtain ⟨hv, hpend⟩ := hpath _ List.mem_cons_self
    refine ih hdone (List.forall_mem_cons.mpr ⟨⟨hv, ?_⟩, ?_⟩) h
    · exact fun b hb => hpend b (List.mem_cons_of_mem _ hb)
    · exact fun c hc => hpath c (List.mem_cons_of_mem _ hc)
  | case6 => cases h

/-- What keeps a walk from failing: every parent is known to it, the roles on the path wait for
parents of theirs, and each role on the path leads up to those entered after it. -/
structure Ascent (roles : Roles) (fresh done : List String) (path : List Climber) : Prop where
  known : ∀ a b, roles.Parent a b → b ∈ fresh ∨ b ∈ done ∨ b ∈ path.map Climber.id
  pending : ∀ c ∈ path, ∀ p ∈ c.pending, roles.Parent c.id p
  upward : path.Pairwise fun c d => TransGen roles.Parent d.id c.id

/-- Dropping a parent that needs no visit keeps the walk from failing. -/
theorem Ascent.skip {fresh done pending : List String} {v p : String} {rest : List Climber}
    (h : roles.Ascent fresh done (⟨v, p :: pending⟩ :: rest)) :
    roles.Ascent fresh done (⟨v, pending⟩ :: rest) where
  known := h.known
  pending := List.forall_mem_cons.mpr
    ⟨fun b hb => h.pending _ List.mem_cons_self b (List.mem_cons_of_mem _ hb),
      fun c hc => h.pending c (List.mem_cons_of_mem _ hc)⟩
  upward := List.pairwise_cons.mpr (List.pairwise_cons.mp h.upward)

theorem climb_ok (ha : roles.Acyclic) {fresh done : List String} {path : List Climber}
    (h : roles.Ascent fresh done path) : ∃ out, roles.climb fresh done path = .ok out := by
  fun_induction climb roles fresh done path with
  | case1 fresh done => exact ⟨done, rfl⟩
  | case2 fresh done v rest ih =>
    refine ih ⟨?_, fun c hc => h.pending c (List.mem_cons_of_mem _ hc), h.upward.of_cons⟩
    intro a b hab
    rcases h.known a b hab with hk | hk | hk
    · exact .inl hk
    · exact .inr (.inl (List.mem_cons_of_mem _ hk))
    · rcases List.mem_cons.mp hk with rfl | hk
      · exact .inr (.inl List.mem_cons_self)
      · exact .inr (.inr hk)
  | case3 fresh done v p pending rest hp hact ih =>
    have hvp : roles.Parent v p := h.pending _ List.mem_cons_self p List.mem_cons_self
    refine ih ⟨?_, List.forall_mem_cons.mpr ⟨?_, h.skip.pending⟩,
      List.pairwise_cons.mpr ⟨?_, h.skip.upward⟩⟩
    · intro a b hab
      by_cases hb : b = p
      · exact .inr (.inr (by simp [hb]))
      · rcases h.known a b hab with hk | hk | hk
        · exact .inl ((List.mem_erase_of_ne hb).mpr hk)
        · exact .inr (.inl hk)
        · exact .inr (.inr (List.mem_cons_of_mem _ hk))
    · exact fun b hb => mem_parentsOf_iff.mp hb
    · intro d hd
      rcases List.mem_cons.mp hd with rfl | hd
      · exact .single hvp
      · exact ((List.pairwise_cons.mp h.upward).1 d hd).tail hvp
  | case4 fresh done v p pending rest hp hact ih => exact ih h.skip
  | case5 fresh done v p pending rest hp hd ih => exact ih h.skip
  | case6 fresh done v p pending rest hp hd =>
    have hvp : roles.Parent v p := h.pending _ List.mem_cons_self p List.mem_cons_self
    have hmem : p ∈ v :: rest.map Climber.id := by
      simpa [hp, hd] using h.known v p hvp
    -- the parent lies on the path, so the path and the step to it close a cycle
    exfalso
    rcases List.mem_cons.mp hmem with rfl | hmem
    · exact ha p (.single hvp)
    · obtain ⟨d, hdr, rfl⟩ := List.mem_map.mp hmem
      exact ha d.id (((List.pairwise_cons.mp h.upward).1 d hdr).tail hvp)

/-! ### Declared roles -/

theorem enter_ok (ha : roles.Acyclic) (done : List String) (id : String) :
    ∃ out, roles.enter done id = .ok out := by
  unfold enter
  split
  · exact ⟨done, rfl⟩
  · refine climb_ok ha ⟨?_, ?_, List.pairwise_singleton _ _⟩
    · intro a b hab
      have hb : b ∈ roles.parentLists.nodes :=
        Adjacency.target_mem_nodes (edge_parentLists_iff.mpr hab)
      by_cases he : b = id
      · exact .inr (.inr (by simp [he]))
      · by_cases hd : b ∈ done
        · exact .inr (.inl hd)
        · exact .inl ((List.mem_erase_of_ne he).mpr (by simp [hb, hd]))
    · intro c hc p hp
      cases List.mem_singleton.mp hc
      exact mem_parentsOf_iff.mp hp

theorem closed_of_enter {done out : List String} {id : String} (hc : roles.Closed done)
    (h : roles.enter done id = .ok out) : roles.Closed out := by
  unfold enter at h
  split at h
  · cases h; exact hc
  · refine climb_closed ?_ ?_ h
    · exact fun v hv p hp => .inr (.inl (hc v hv p hp))
    · intro c hcm p hp
      cases List.mem_singleton.mp hcm
      exact .inl (mem_parentsOf_iff.mpr hp.1)

/-- A closed set that holds a role holds all that unbroken chains from it lead to. -/
theorem Closed.mem_of_chain {done : List String} (hc : roles.Closed done) {a b : String}
    (ha : a ∈ done) (h : ReflTransGen roles.Climbs a b) : b ∈ done := by
  induction h with
  | refl => exact ha
  | tail _ hab ih => exact hc _ ih _ hab

theorem mem_enter_iff {done out : List String} {id x : String} (hc : roles.Closed done)
    (h : roles.enter done id = .ok out) :
    x ∈ out ↔ x ∈ done ∨ roles.Active id ∧ ReflTransGen roles.Climbs id x := by
  have hout := closed_of_enter hc h
  unfold enter at h
  split at h
  next hskip =>
    cases h
    constructor
    · exact .inl
    · rintro (hx | ⟨hact, hx⟩)
      · exact hx
      · have hid : id ∈ done := by simpa [isActive_iff.mpr hact] using hskip
        exact hc.mem_of_chain hid hx
  next hnew =>
    have hact : roles.Active id := isActive_iff.mp (by simp_all)
    constructor
    · intro hx
      -- all that is collected was left before, or hangs on a chain from `id`
      refine climb_forall (P := fun y => y ∈ done ∨ roles.Active id ∧
        ReflTransGen roles.Climbs id y) ?_ (fun v hv => .inl hv) ?_ h x hx
      · rintro a b hab (hd | ⟨_, hr⟩)
        · exact .inl (hc a hd b hab)
        · exact .inr ⟨hact, hr.tail hab⟩
      · intro c hcm
        cases List.mem_singleton.mp hcm
        exact ⟨.inr ⟨hact, .refl⟩, fun p hp => mem_parentsOf_iff.mp hp⟩
    · obtain ⟨hd, hp⟩ := mem_climb h
      rintro (hx | ⟨_, hx⟩)
      · exact hd x hx
      · exact hout.mem_of_chain (hp _ List.mem_cons_self) hx

theorem foldlM_enter_ok (ha : roles.Acyclic) (declared done : List String) :
    ∃ out, declared.foldlM (enter roles) done = .ok out := by
  induction declared generalizing done with
  | nil => exact ⟨done, rfl⟩
  | cons d rest ih =>
    obtain ⟨mid, hm⟩ := enter_ok ha done d
    obtain ⟨out, ho⟩ := ih mid
    exact ⟨out, by rw [List.foldlM_cons, hm]; exact ho⟩

theorem mem_foldlM_enter_iff {declared done out : List String} {x : String}
    (hc : roles.Closed done) (h : declared.foldlM (enter roles) done = .ok out) :
    x ∈ out ↔ x ∈ done ∨ ∃ d ∈ declared, roles.Active d ∧ ReflTransGen roles.Climbs d x := by
  induction declared generalizing done with
  | nil => cases h; simp
  | cons d rest ih =>
    rw [List.foldlM_cons] at h
    cases hm : roles.enter done d with
    | error f => rw [hm] at h; cases h
    | ok mid =>
      rw [hm] at h
      rw [ih (closed_of_enter hc hm) h, mem_enter_iff hc hm]
      simp only [List.mem_cons, exists_eq_or_imp, or_assoc]

/-- In an acyclic hierarchy the walk never comes back to a role on its path. -/
theorem effective_ok (ha : roles.Acyclic) (hierarchical : Bool) (declared : List String) :
    ∃ ids, roles.effective hierarchical declared = .ok ids := by
  unfold effective
  split
  · obtain ⟨out, ho⟩ := foldlM_enter_ok ha declared []
    exact ⟨_, by rw [ho]; rfl⟩
  · exact ⟨_, rfl⟩

theorem mem_effective_iff {hierarchical : Bool} {declared ids : List String} {x : String}
    (h : roles.effective hierarchical declared = .ok ids) :
    x ∈ ids ↔ roles.Stands hierarchical declared x := by
  unfold effective at h
  unfold Stands
  split at h
  next hh =>
    rw [if_pos hh]
    cases ho : declared.foldlM (enter roles) [] with
    | error f => rw [ho] at h; cases h
    | ok out =>
      rw [ho] at h
      cases h
      have hnil : roles.Closed [] := fun v hv => absurd hv List.not_mem_nil
      rw [Dict.mem_sortedSet, mem_foldlM_enter_iff hnil ho]
      simp
  next hh =>
    rw [if_neg hh]
    cases h
    simp [isActive_iff]

theorem effective_pairwise {hierarchical : Bool} {declared ids : List String}
    (h : roles.effective hierarchical declared = .ok ids) : ids.Pairwise (· < ·) := by
  unfold effective at h
  split at h
  · cases hf : declared.foldlM (enter roles) [] with
    | error f => rw [hf] at h; cases h
    | ok out => rw [hf] at h; cases h; exact Dict.sortedSet_pairwise _
  · cases h; exact Dict.sortedSet_pairwise _

/-- Declared roles that stand for the same roles have the same effect. -/
theorem effective_congr {roles' : Roles} (ha : roles.Acyclic) (ha' : roles'.Acyclic)
    {hierarchical : Bool} {declared declared' : List String}
    (h : ∀ id, roles.Stands hierarchical declared id ↔ roles'.Stands hierarchical declared' id) :
    roles.effective hierarchical declared = roles'.effective hierarchical declared' := by
  obtain ⟨ids, hi⟩ := effective_ok ha hierarchical declared
  obtain ⟨ids', hi'⟩ := effective_ok ha' hierarchical declared'
  rw [hi, hi']
  refine congrArg _ (Dict.eq_of_pairwise_of_mem_iff (effective_pairwise hi)
    (effective_pairwise hi') fun x => ?_)
  rw [mem_effective_iff hi, mem_effective_iff hi', h]

end TagAtlas.Roles
