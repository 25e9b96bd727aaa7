import TagAtlas.Proofs.AccessCacheTransparency
import TagAtlas.Proofs.RoleBatches

/-!
# Batches that are applied twice

Of the policies with one id the last stands, with the time at which the first was created; so the
second run of a batch stores the same policies. A stored permission, like a stored role, takes in
what it lacks, and after the first run it lacks nothing.
-/

namespace TagAtlas

/-! ### Policies -/

/-- A policy apart from the time of its last change. -/
def Policy.undated (p : Policy) : Policy := { p with updatedAt := 0 }

/-- The stored policies apart from the times of their last changes. -/
def Policies.undated (policies : Policies) : Policies := policies.mapValues fun _ p => p.undated

theorem Policies.undated_eq {policies policies' : Policies}
    (huntimed : ∀ id, (policies'.find? id).map Policy.untimed = (policies.find? id).map Policy.untimed)
    (hcreated : ∀ id,
      (policies'.find? id).map Policy.createdAt = (policies.find? id).map Policy.createdAt) :
    policies'.undated = policies.undated := by
  apply Dict.ext_find?
  intro id
  have huntimed := huntimed id
  have hcreated := hcreated id
  rw [undated, undated, Dict.find?_mapValues, Dict.find?_mapValues]
  cases hp : policies.find? id with
  | none =>
    rw [hp, Option.map_none, Option.map_eq_none_iff] at huntimed
    rw [huntimed]
  | some p =>
    rw [hp, Option.map_some] at huntimed hcreated
    obtain ⟨q, hq, hsame⟩ := Option.map_eq_some_iff.mp huntimed
    rw [hq, Option.map_some, Option.some.injEq] at hcreated
    rw [hq, Option.map_some, Option.map_some]
    have hundated : ∀ x : Policy, x.undated = { x.untimed with createdAt := x.createdAt } :=
      fun _ => rfl
    rw [hundated q, hundated p, hsame, hcreated]

namespace AccessCore

variable {c : AccessCore} {b : Batch} {now now' : Time}

def placeAll (policies : Policies) (now : Time) (incoming : List Policy) : Policies :=
  incoming.foldl (fun ps p => placePolicy ps p now) policies

theorem placeAll_concat (policies : Policies) (now : Time) (incoming : List Policy) (p : Policy) :
    placeAll policies now (incoming ++ [p]) = placePolicy (placeAll policies now incoming) p now := by
  rw [placeAll, List.foldl_append]
  rfl

theorem untimed_placeAll (policies : Policies) (now : Time) (incoming : List Policy) (id : String) :
    ((placeAll policies now incoming).find? id).map Policy.untimed =
      ((incoming.reverse.find? (·.id = id)).or (policies.find? id)).map Policy.untimed := by
  induction incoming using List.reverseRecOn with
  | nil => rfl
  | append_singleton incoming p ih =>
    obtain ⟨created, updated, heq⟩ := exists_placePolicy_eq (placeAll policies now incoming) p now
    rw [placeAll_concat, heq, Dict.find?_insert, List.reverse_append, List.reverse_singleton,
      List.singleton_append, List.find?_cons]
    by_cases hid : id = p.id
    · simp [hid, Policy.untimed]
    · have hne : decide (p.id = id) = false := decide_eq_false (Ne.symm hid)
      rw [if_neg hid, hne, ih]

theorem createdAt_placeAll (policies : Policies) (now : Time) (incoming : List Policy)
    (id : String) : ((placeAll policies now incoming).find? id).map Policy.createdAt =
      ((policies.find? id).or (incoming.find? (·.id = id))).map Policy.createdAt := by
  induction incoming using List.reverseRecOn with
  | nil => simp [placeAll]
  | append_singleton incoming p ih =>
    rw [placeAll_concat, List.find?_append, ← Option.or_assoc, placePolicy]
    cases hold : (placeAll policies now incoming).find? p.id with
    | none =>
      rw [Dict.find?_insert]
      by_cases hid : id = p.id
      · -- neither the stored policies nor the list had the id
        subst hid
        rw [hold, Option.map_none, eq_comm, Option.map_eq_none_iff] at ih
        simp [ih]
      · simp [hid, Ne.symm hid, ih]
    | some old =>
      rw [Dict.find?_insert]
      by_cases hid : id = p.id
      · subst hid
        rw [hold, Option.map_some, eq_comm] at ih
        obtain ⟨first, hfirst, hcreated⟩ := Option.map_eq_some_iff.mp ih
        simp [hfirst, hcreated]
      · simp [hid, Ne.symm hid, ih]

/-- A list of policies that is stored again moves times of last changes only. -/
theorem undated_placeAll_placeAll (policies : Policies) (now now' : Time)
    (incoming : List Policy) :
    (placeAll (placeAll policies now incoming) now' incoming).undated =
      (placeAll policies now incoming).undated := by
  refine Policies.undated_eq (fun id => ?_) fun id => ?_
  · rw [untimed_placeAll, Option.map_or, untimed_placeAll, ← Option.map_or, ← Option.or_assoc,
      Option.or_self]
  · have hfirst := createdAt_placeAll policies now incoming id
    rw [createdAt_placeAll, Option.map_or, hfirst, ← Option.map_or]
    cases policies.find? id <;> simp

end AccessCore

/-! ### Permissions -/

/-- The permission has the modules of another one, and its description if it has one. -/
structure Permission.Covers (s p : Permission) : Prop where
  modules : ∀ m ∈ p.modules, m ∈ s.modules
  described : s.description = none → p.description = none

namespace Permission

variable {p q s : Permission}

theorem Covers.refl (p : Permission) : p.Covers p := ⟨fun _ h => h, fun h => h⟩

theorem covers_absorb (s p : Permission) : (s.absorb p).Covers p where
  modules _ hm := mem_appendNew.mpr (.inr hm)
  described h := (Option.or_eq_none_iff.mp h).2

theorem Covers.absorb (h : s.Covers p) (q : Permission) : (s.absorb q).Covers p where
  modules m hm := mem_appendNew.mpr (.inl (h.modules m hm))
  described hnone := h.described (Option.or_eq_none_iff.mp hnone).1

theorem Covers.absorb_eq (h : s.Covers p) : s.absorb p = s := by
  have hmodules : (s.absorb p).modules = s.modules := appendNew_of_subset h.modules
  have hdescription : (s.absorb p).description = s.description := by
    show s.description.or p.description = s.description
    cases hs : s.description with
    | none => exact h.described hs
    | some text => rfl
  calc s.absorb p
      = { s with modules := (s.absorb p).modules, description := (s.absorb p).description } := rfl
    _ = s := by rw [hmodules, hdescription]

end Permission

namespace AccessCore

def Registers (permissions : Dict Permission) (p : Permission) : Prop :=
  ∃ s, permissions.find? p.id = some s ∧ s.Covers p

variable {permissions : Dict Permission} {incoming : List Permission} {p q : Permission}

theorem registers_placePermission (permissions : Dict Permission) (p : Permission) :
    Registers (placePermission permissions p) p := by
  unfold placePermission
  cases permissions.find? p.id with
  | none => exact ⟨p, by simp, .refl p⟩
  | some stored => exact ⟨stored.absorb p, by simp, stored.covers_absorb p⟩

theorem Registers.placePermission (h : Registers permissions p) (q : Permission) :
    Registers (placePermission permissions q) p := by
  obtain ⟨s, hs, hcovers⟩ := h
  unfold AccessCore.placePermission
  by_cases hid : p.id = q.id
  · rw [hid] at hs
    rw [hs]
    exact ⟨s.absorb q, by simp [hid], hcovers.absorb q⟩
  · cases permissions.find? q.id with
    | none => exact ⟨s, by simp [hid, hs], hcovers⟩
    | some stored => exact ⟨s, by simp [hid, hs], hcovers⟩

theorem registers_foldl_placePermission (permissions : Dict Permission)
    (incoming : List Permission) :
    ∀ p ∈ incoming, Registers (incoming.foldl placePermission permissions) p := by
  induction incoming using List.reverseRecOn with
  | nil => simp
  | append_singleton incoming q ih =>
    intro p hp
    rw [List.foldl_append, List.foldl_cons, List.foldl_nil]
    rcases List.mem_append.mp hp with hp | hp
    · exact (ih p hp).placePermission q
    · obtain rfl := List.mem_singleton.mp hp
      exact registers_placePermission _ p

theorem Registers.placePermission_eq (h : Registers permissions p) :
    AccessCore.placePermission permissions p = permissions := by
  obtain ⟨s, hs, hcovers⟩ := h
  have hplace : AccessCore.placePermission permissions p =
      permissions.insert p.id (s.absorb p) := by
    rw [AccessCore.placePermission, hs]
  rw [hplace, hcovers.absorb_eq]
  exact Dict.insert_of_find? hs

theorem foldl_placePermission_of_registers (h : ∀ p ∈ incoming, Registers permissions p) :
    incoming.foldl placePermission permissions = permissions := by
  induction incoming with
  | nil => rfl
  | cons p rest ih =>
    rw [List.foldl_cons, (h p List.mem_cons_self).placePermission_eq]
    exact ih fun q hq => h q (List.mem_cons_of_mem _ hq)

/-! ### Batches -/

variable {c : AccessCore} {b : Batch} {now : Time}

theorem apply_of_addAll {roles : Roles} (hsound : policyFault? b.policies = none)
    (hroles : c.roles.addAll now b.roles = .ok roles) : c.apply b now =
      (.ok (), { c with
        roles := roles
        policies := placeAll c.policies now b.policies
        permissions := b.permissions.foldl placePermission c.permissions }.clearDecisions) := by
  rw [apply, hsound]
  simp only [hroles, placeAll]

theorem apply_eq_ok_iff : (c.apply b now).1 = .ok () ↔
    policyFault? b.policies = none ∧ ∃ roles, c.roles.addAll now b.roles = .ok roles := by
  unfold apply
  cases policyFault? b.policies with
  | some fault => simp
  | none => cases c.roles.addAll now b.roles <;> simp

/-- Stored roles have only grown, and stored policies have been created when they were. -/
structure Adds (c d : AccessCore) : Prop where
  roles : c.roles.Grow d.roles
  policies : ∀ id p, c.policies.find? id = some p →
    ∃ q, d.policies.find? id = some q ∧ q.createdAt = p.createdAt

/-- The same policies, roles and permissions, apart from the times of last changes. -/
structure SameButDates (c d : AccessCore) : Prop where
  policies : d.policies.undated = c.policies.undated
  roles : d.roles.undated = c.roles.undated
  permissions : d.permissions = c.permissions

theorem adds_apply (hc : Roles.IsHierarchy c.roles) (h : (c.apply b now).1 = .ok ()) :
    Adds c (c.apply b now).2 := by
  obtain ⟨hsound, roles, hroles⟩ := apply_eq_ok_iff.mp h
  rw [apply_of_addAll hsound hroles]
  refine ⟨(hc.grow_addAll hroles).1, fun id p hp => ?_⟩
  have hcreated := createdAt_placeAll c.policies now b.policies id
  rw [hp, Option.some_or, Option.map_some] at hcreated
  exact Option.map_eq_some_iff.mp hcreated

/-- A batch that has been applied can be applied again, and then changes times only. -/
theorem apply_again (hc : c.Reachable) (h : (c.apply b now).1 = .ok ()) (now' : Time) :
    Adds c (c.apply b now).2 ∧ ((c.apply b now).2.apply b now').1 = .ok () ∧
      SameButDates (c.apply b now).2 ((c.apply b now).2.apply b now').2 := by
  have hhierarchy := hc.consistent.hierarchy
  refine ⟨adds_apply hhierarchy h, ?_⟩
  obtain ⟨hsound, roles, hroles⟩ := apply_eq_ok_iff.mp h
  have hfirst := apply_of_addAll hsound hroles
  -- the second run sees roles that hold all that the batch brings
  obtain ⟨roles', hroles', hundated⟩ :=
    (hhierarchy.addAll hroles).addAll_of_holds (hhierarchy.grow_addAll hroles).2 now'
  rw [hfirst, apply_of_addAll hsound hroles']
  exact ⟨rfl, {
    policies := undated_placeAll_placeAll c.policies now now' b.policies
    roles := hundated
    permissions :=
      foldl_placePermission_of_registers (registers_foldl_placePermission _ b.permissions) }⟩

/-- An operator has switched a role off that the batch names twice, and a role inherits from one
that the batch itself brings. -/
theorem apply_again_joined_roles :
    let lead (parents : List String) : Role := { Role.new "lead" 50 0 with parents := parents }
    let rule (action : String) : Policy :=
      ⟨"rule", "m", "doc*", [action], ["lead"], [], .empty, none, none, none, 0, 0⟩
    let b : Batch :=
      ⟨[rule "read", rule "write"],
        [Role.new "clerk" 20 0, lead ["clerk"], lead ["user"]],
        [⟨"p", none, ["m"]⟩, ⟨"p", some "text", ["n"]⟩]⟩
    let c := ((initial .standard 0).run
      [(.addRole (lead ["guest"]), 1), (.setActive "lead" false, 2)]).2
    let d := (c.apply b 3).2
    (d.roles.find? "lead").map (fun r => (r.active, r.parents)) =
        some (false, ["guest", "clerk", "user"]) ∧
      (d.apply b 4).1 = .ok () ∧ SameButDates d (d.apply b 4).2 := by
  intro lead rule b c d
  have happly : (c.apply b 3).1 = .ok () := by
    unfold c b rule lead
    cbv
  refine ⟨?_, (apply_again (.run (.new (new_eq_ok_iff.mpr ⟨rfl, rfl⟩)) _) happly 4).2⟩
  unfold d c b rule lead
  cbv

end AccessCore

end TagAtlas
