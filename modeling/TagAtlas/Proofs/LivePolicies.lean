import TagAtlas.Proofs.AccessDecisionRule

/-!
# Policies that can allow something

An accepted policy that names a role is alive: a request made for it, which declares one of its
roles and the role that grants everything, meets all that the policy asks for. A policy that names
no role is accepted for its conditions, but no request stands for one of no roles, so it allows
nothing.
-/

namespace TagAtlas

/-- What the policy asks for, wished by someone with the given roles. -/
def Policy.request (p : Policy) (roles : List String) : Request where
  id := 0
  subject := "ann"
  resource := p.resource
  action := p.actions.headD "read"
  roles := roles
  context := p.conditions

theorem Policy.covers_request (p : Policy) (roles : List String) : p.Covers (p.request roles) := by
  refine ⟨.inr rfl, ?_⟩
  cases hactions : p.actions with
  | nil => exact .inl rfl
  | cons a rest => exact .inr (.inr (by simp [request, hactions]))

theorem Roles.active_builtin (now : Time) (id : String) :
    Roles.Active (Dict.ofList ((Role.builtin now).map fun r => (r.id, r))) id := by
  intro r hr
  simp only [Dict.ofList, Role.builtin, List.map_cons, List.map_nil, List.foldl_cons,
    List.foldl_nil, Dict.find?_insert, Dict.find?_empty] at hr
  split_ifs at hr <;> cases hr <;> rfl

/-- A builtin role grants everything. -/
theorem Roles.exists_builtin_grants_all (now : Time) :
    ∃ r, (Dict.ofList ((Role.builtin now).map fun r => (r.id, r))).find? "admin" = some r ∧
      "*" ∈ r.permissions := by
  refine ⟨{ Role.new "admin" 100 now with
    name := "Administrator", parents := ["user"], permissions := ["*"] }, ?_, by simp⟩
  simp only [Dict.ofList, Role.builtin, List.map_cons, List.map_nil, List.foldl_cons,
    List.foldl_nil]
  exact (Dict.find?_insert ..).trans (if_pos rfl)

namespace AccessCore

variable {c d : AccessCore} {p : Policy} {q : Request}

theorem standsFor_of_mem {id : String} (hid : id ∈ q.roles) (hactive : c.roles.Active id) :
    c.StandsFor q id := by
  unfold StandsFor Roles.Stands
  split
  · exact ⟨id, hid, hactive, .refl⟩
  · exact ⟨hid, hactive⟩

theorem Satisfied.roles_ne_nil (h : c.Satisfied q p) : p.roles ≠ [] := by
  obtain ⟨id, hid, -⟩ := h.role
  exact List.ne_nil_of_mem hid

theorem satisfied_request {id master : String} {r : Role} (hid : id ∈ p.roles)
    (hactive : c.roles.Active id) (hmaster : c.roles.find? master = some r)
    (hstar : "*" ∈ r.permissions) (hmactive : c.roles.Active master) :
    c.Satisfied (p.request [id, master]) p where
  role := ⟨id, hid, standsFor_of_mem List.mem_cons_self hactive⟩
  permissions x _ := by
    refine ⟨master, r, standsFor_of_mem ?_ hmactive, hmaster, .inl hstar⟩
    exact List.mem_cons_of_mem _ List.mem_cons_self
  conditions _ _ _ h := h

/-! ### The only policy -/

/-- The state of a new access control that has accepted a policy. -/
structure HoldsOnly (p : Policy) (c : AccessCore) : Prop where
  settings : c.settings = .standard
  policies : ∀ id p', c.policies.find? id = some p' ↔ id = p.id ∧ p' = p
  roles : ∃ start, c.roles = Dict.ofList ((Role.builtin start).map fun r => (r.id, r))
  consistent : c.Consistent

theorem accepted_of_addPolicy {now : Time} {isNew : Bool}
    (h : (c.addPolicy p now).1 = .ok isNew) : ∃ d, c.addPolicy p now = (.ok isNew, d) := by
  generalize c.addPolicy p now = r at h ⊢
  exact ⟨r.2, Prod.ext h rfl⟩

theorem stores_of_addPolicy {now : Time} {isNew : Bool}
    (hadd : c.addPolicy p now = (.ok isNew, d)) :
    d.settings = c.settings ∧ d.policies = placePolicy c.policies p now ∧ d.roles = c.roles := by
  unfold addPolicy at hadd
  split at hadd
  next => cases hadd
  next =>
    obtain ⟨-, rfl⟩ := Prod.mk.inj hadd
    exact ⟨rfl, rfl, rfl⟩

theorem holdsOnly_of_addPolicy {start now : Time} {isNew : Bool}
    (hnew : AccessCore.new .standard start = .ok c) (hadd : c.addPolicy p now = (.ok isNew, d)) :
    HoldsOnly p d := by
  have hconsistent := (Reachable.new hnew).consistent.addPolicy p now
  rw [hadd] at hconsistent
  obtain ⟨hsettings, hpolicies, hroles⟩ := stores_of_addPolicy hadd
  obtain ⟨-, rfl⟩ := new_eq_ok_iff.mp hnew
  refine ⟨hsettings, fun id p' => ?_, ⟨start, hroles⟩, hconsistent⟩
  have hplaced : d.policies = Dict.empty.insert p.id p := hpolicies
  rw [hplaced, Dict.find?_insert, Dict.find?_empty]
  split <;> simp [*, eq_comm]

namespace HoldsOnly

theorem grants_iff (h : HoldsOnly p d) {id : String} :
    d.Grants q id ↔ id = p.id ∧ p.Covers q ∧ d.Satisfied q p := by
  unfold Grants
  simp only [h.policies]
  constructor
  · rintro ⟨_, ⟨hid, rfl⟩, hallows⟩
    exact ⟨hid, hallows⟩
  · rintro ⟨hid, hallows⟩
    exact ⟨p, ⟨hid, rfl⟩, hallows⟩

theorem rule_check (h : HoldsOnly p d) (q : Request) (now : Time) :
    d.Rule q (d.check q now).1.reason.allows (d.check q now).1.reason.text
      (d.check q now).1.applied := by
  have hruling := h.consistent.check_eq q now
  have hread : d.refuses q = false := by
    rw [refuses, h.settings]
    rfl
  rw [ruling, hread, if_neg Bool.false_ne_true] at hruling
  exact h.consistent.rule_of_decides hruling

theorem allows_request (h : HoldsOnly p d) (hroles : p.roles ≠ []) :
    ∃ q : Request, ∀ now, (d.check q now).1.reason.allows = true ∧
      (d.check q now).1.reason.text = "allowed by policy " ++ p.id := by
  obtain ⟨start, hbuiltin⟩ := h.roles
  obtain ⟨r, hadmin, hstar⟩ := Roles.exists_builtin_grants_all start
  obtain ⟨id, hid⟩ := List.exists_mem_of_ne_nil _ hroles
  have hactive : ∀ id, d.roles.Active id := hbuiltin ▸ Roles.active_builtin start
  have hsatisfied := satisfied_request hid (hactive id) (hbuiltin ▸ hadmin) hstar (hactive "admin")
  refine ⟨p.request [id, "admin"], fun now => ?_⟩
  rcases (h.rule_check (p.request [id, "admin"]) now).outcome with
    ⟨id', hgrants, -, hallowed, hreason⟩ | ⟨hnone, -⟩
  · rw [(h.grants_iff.mp hgrants).1] at hreason
    exact ⟨hallowed, hreason⟩
  · exact absurd ⟨p.id, h.grants_iff.mpr ⟨rfl, p.covers_request _, hsatisfied⟩⟩ hnone

theorem denies_all (h : HoldsOnly p d) (hroles : p.roles = []) (q : Request) (now : Time) :
    (d.check q now).1.reason.allows = false := by
  have hdeny : d.settings.defaultDeny = true := by
    rw [h.settings]
    rfl
  rcases (h.rule_check q now).outcome with ⟨id, hgrants, -⟩ | ⟨-, hrest⟩
  · exact absurd hroles (h.grants_iff.mp hgrants).2.2.roles_ne_nil
  · rcases hrest with ⟨-, hdenied, -⟩ | ⟨-, -, hdenied, -⟩ | ⟨-, hallow, -⟩
    · exact hdenied
    · exact hdenied
    · exact absurd (hallow.symm.trans hdeny) Bool.false_ne_true

end HoldsOnly

/-- A new access control with standard settings that accepts a policy has a request that it allows
by this policy, if the policy names a role. Otherwise it denies every request. -/
theorem allows_by_accepted_policy {start now : Time} {isNew : Bool}
    (hnew : AccessCore.new .standard start = .ok c) (hadd : c.addPolicy p now = (.ok isNew, d)) :
    (p.roles ≠ [] → ∃ q : Request, ∀ t, (d.check q t).1.reason.allows = true ∧
        (d.check q t).1.reason.text = "allowed by policy " ++ p.id) ∧
      (p.roles = [] → ∀ (q : Request) (t : Time), (d.check q t).1.reason.allows = false) := by
  have honly := holdsOnly_of_addPolicy hnew hadd
  exact ⟨honly.allows_request, honly.denies_all⟩

/-- The policy asks for a role that is not stored, for a permission that no such role has, and for a
context. -/
theorem allows_by_accepted_policy_unknown_role :
    let p : Policy := ⟨"p1", "", "reports/*", ["write"], ["auditor"], ["audit:write"],
      Dict.ofList [("tenant", "acme")], none, none, none, 5, 5⟩
    AccessCore.new .standard 0 = .ok (initial .standard 0) ∧ p.roles ≠ [] ∧
      ∃ d, (initial .standard 0).addPolicy p 5 = (.ok true, d) ∧
        ∃ q : Request, ∀ t, (d.check q t).1.reason.allows = true ∧
          (d.check q t).1.reason.text = "allowed by policy p1" := by
  intro p
  have hnew : AccessCore.new .standard 0 = .ok (initial .standard 0) :=
    new_eq_ok_iff.mpr ⟨rfl, rfl⟩
  have hroles : p.roles ≠ [] := List.cons_ne_nil _ _
  have hadd : ((initial .standard 0).addPolicy p 5).1 = .ok true := by
    unfold p
    cbv
  obtain ⟨d, haccepted⟩ := accepted_of_addPolicy hadd
  exact ⟨hnew, hroles, d, haccepted, (allows_by_accepted_policy hnew haccepted).1 hroles⟩

/-- A policy that names a condition and no role is accepted, and allows nothing. -/
theorem denies_all_by_policy_without_role :
    let p : Policy := ⟨"tenant", "", "docs", [], [], [], Dict.ofList [("tenant", "acme")], none,
      none, none, 5, 5⟩
    ∃ c d, AccessCore.new .standard 0 = .ok c ∧ c.addPolicy p 5 = (.ok true, d) ∧
      ¬ ∃ q t, (d.check q t).1.reason.allows = true ∧
        (d.check q t).1.reason.text = "allowed by policy tenant" := by
  intro p
  have hnew : AccessCore.new .standard 0 = .ok (initial .standard 0) :=
    new_eq_ok_iff.mpr ⟨rfl, rfl⟩
  have hadd : ((initial .standard 0).addPolicy p 5).1 = .ok true := by
    unfold p
    cbv
  obtain ⟨d, haccepted⟩ := accepted_of_addPolicy hadd
  have honly := holdsOnly_of_addPolicy hnew haccepted
  refine ⟨_, d, hnew, haccepted, ?_⟩
  rintro ⟨q, t, hallowed, -⟩
  exact Bool.false_ne_true ((honly.denies_all rfl q t).symm.trans hallowed)

end AccessCore

end TagAtlas
