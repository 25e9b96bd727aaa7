import TagAtlas.Proofs.AccessCacheTransparency
import TagAtlas.Proofs.AccessDecisionRule

/-!
# More never allows less

A chain of active roles stays one when there are more roles to start from, when a role is activated,
and when policies change. So what grants a request goes on granting it when the request declares
more, when a role is activated, and when a policy joins the others; and seen from the other side, no
request is allowed because a role is deactivated or, with denial by default, because a policy goes.
-/

namespace TagAtlas

open Relation

namespace Roles

/-- Roles with the parents and the permissions of others, and no fewer of them active. -/
structure Extends (roles' roles : Roles) : Prop where
  parent : ∀ a b, roles.Parent a b → roles'.Parent a b
  active : ∀ id, roles.Active id → roles'.Active id
  permissions : ∀ id r, roles.find? id = some r →
    ∃ s, roles'.find? id = some s ∧ s.permissions = r.permissions

variable {roles roles' : Roles} {hierarchical : Bool} {declared declared' : List String}
  {id key : String} {r s : Role}

theorem Extends.refl (roles : Roles) : roles.Extends roles :=
  ⟨fun _ _ h => h, fun _ h => h, fun _ r hr => ⟨r, hr, rfl⟩⟩

/-- A chain of active roles is one in the other roles as well. -/
theorem Extends.stands (h : roles'.Extends roles) (hdeclared : ∀ d ∈ declared, d ∈ declared')
    (hid : roles.Stands hierarchical declared id) : roles'.Stands hierarchical declared' id := by
  unfold Stands at hid ⊢
  cases hierarchical with
  | true =>
    obtain ⟨d, hd, hactive, hchain⟩ := hid
    refine ⟨d, hdeclared d hd, h.active d hactive, ?_⟩
    exact ReflTransGen.mono (fun a b hab => ⟨h.parent a b hab.1, h.active b hab.2⟩) _ _ hchain
  | false => exact ⟨hdeclared id hid.1, h.active id hid.2⟩

theorem active_insert_iff :
    Active (roles.insert key s) id ↔ if id = key then s.active = true else roles.Active id := by
  unfold Active
  rw [Dict.find?_insert]
  split <;> simp

theorem parent_insert_restated_iff {a b : String} (hr : roles.find? key = some r)
    (hparents : s.parents = r.parents) : Parent (roles.insert key s) a b ↔ roles.Parent a b := by
  by_cases ha : a = key
  · subst ha
    rw [parent_insert_self, hparents]
    simp [Parent, hr]
  · exact parent_insert_of_ne ha

/-- A role that is activated, and is otherwise as it was as far as it counts. -/
theorem extends_insert (hr : roles.find? key = some r) (hparents : s.parents = r.parents)
    (hpermissions : s.permissions = r.permissions) (hactive : s.active = true) :
    Extends (roles.insert key s) roles where
  parent _ _ := (parent_insert_restated_iff hr hparents).mpr
  active a ha := by
    rw [active_insert_iff]
    split
    · exact hactive
    · exact ha
  permissions a x hx := by
    rw [Dict.find?_insert]
    split
    next ha =>
      subst ha
      obtain rfl : r = x := Option.some.inj (hr.symm.trans hx)
      exact ⟨s, rfl, hpermissions⟩
    next => exact ⟨x, hx, rfl⟩

/-- The roles before extend those in which a role is deactivated. -/
theorem extends_of_insert (hr : roles.find? key = some r) (hparents : s.parents = r.parents)
    (hpermissions : s.permissions = r.permissions) (hactive : s.active = false) :
    Extends roles (roles.insert key s) where
  parent _ _ := (parent_insert_restated_iff hr hparents).mp
  active a ha := by
    rw [active_insert_iff] at ha
    split at ha
    · rw [hactive] at ha
      cases ha
    · exact ha
  permissions a x hx := by
    rw [Dict.find?_insert] at hx
    split at hx
    next ha =>
      subst ha
      obtain rfl : s = x := Option.some.inj hx
      exact ⟨r, hr, hpermissions.symm⟩
    next => exact ⟨x, hx, rfl⟩

end Roles

/-- The same wish, with no fewer roles and all that the context says. -/
structure Request.Within (q q' : Request) : Prop where
  subject : q'.subject = q.subject
  resource : q'.resource = q.resource
  action : q'.action = q.action
  roles : ∀ r ∈ q.roles, r ∈ q'.roles
  context : ∀ key value, q.context.find? key = some value → q'.context.find? key = some value

theorem Request.Within.refl (q : Request) : q.Within q :=
  ⟨rfl, rfl, rfl, fun _ h => h, fun _ _ h => h⟩

theorem Request.Within.covers_iff {q q' : Request} {p : Policy} (hq : q.Within q') :
    p.Covers q' ↔ p.Covers q := by
  unfold Policy.Covers
  rw [hq.resource, hq.action]

namespace AccessCore

/-- A state in which nothing is missing that may allow a request in another one: no role, no policy,
and where policies are new, the default allows nothing. -/
structure Extends (d c : AccessCore) : Prop where
  settings : d.settings = c.settings
  roles : d.roles.Extends c.roles
  policies : ∀ id p, c.policies.find? id = some p → d.policies.find? id = some p
  default : d.policies = c.policies ∨ c.settings.defaultDeny = true

variable {c d : AccessCore} {q q' : Request} {p : Policy} {id : String} {now : Time}

/-! ### What allows a request -/

/-- What a satisfied policy rests on is there in the other state, too. -/
theorem Satisfied.mono (h : c.Satisfied q p) (hd : d.Extends c) (hq : q.Within q') :
    d.Satisfied q' p := by
  have hstands : ∀ id, c.StandsFor q id → d.StandsFor q' id := by
    intro id hid
    unfold StandsFor
    rw [hd.settings]
    exact hd.roles.stands hq.roles hid
  constructor
  · obtain ⟨id, hid, hstand⟩ := h.role
    exact ⟨id, hid, hstands id hstand⟩
  · intro x hx
    obtain ⟨id, r, hstand, hr, hgrants⟩ := h.permissions x hx
    obtain ⟨s, hs, hsame⟩ := hd.roles.permissions id r hr
    exact ⟨id, s, hstands id hstand, hs, hsame ▸ hgrants⟩
  · rw [hd.settings]
    exact fun hcontextual key value hc => hq.context key value (h.conditions hcontextual key value hc)

theorem Grants.mono (h : c.Grants q id) (hd : d.Extends c) (hq : q.Within q') : d.Grants q' id := by
  obtain ⟨p, hp, hcovers, hsatisfied⟩ := h
  exact ⟨p, hd.policies id p hp, hq.covers_iff.mpr hcovers, hsatisfied.mono hd hq⟩

theorem Permits.mono (h : c.Permits q) (hd : d.Extends c) (hq : q.Within q') : d.Permits q' := by
  obtain ⟨hread, hpermits⟩ := h
  have hread' : d.refuses q' = false := by
    rw [refuses, Request.isWellFormed, hd.settings, hq.subject, hq.resource, hq.action]
    exact hread
  refine ⟨hread', ?_⟩
  rcases hpermits with ⟨id, hid⟩ | ⟨hallow, hfree⟩
  · exact .inl ⟨id, hid.mono hd hq⟩
  -- no policy covers the request, and the default decides
  · rcases hd.default with hsame | hdeny
    · refine .inr ⟨hd.settings ▸ hallow, fun id p hp => ?_⟩
      rw [hq.covers_iff]
      exact hfree id p (hsame ▸ hp)
    · rw [hdeny] at hallow
      cases hallow

/-! ### What a change leaves -/

namespace Extends

theorem refl (c : AccessCore) : c.Extends c := ⟨rfl, .refl _, fun _ _ h => h, .inl rfl⟩

theorem of_sameStores (h : SameStores c d) : d.Extends c where
  settings := h.settings
  roles := h.roles ▸ .refl _
  policies _ _ hp := h.policies ▸ hp
  default := .inl h.policies

theorem activate (c : AccessCore) (id : String) (now : Time) :
    (c.setActive id true now).2.Extends c := by
  unfold setActive
  cases hr : c.roles.find? id with
  | none => exact .refl c
  | some r => exact ⟨rfl, Roles.extends_insert hr rfl rfl rfl, fun _ _ h => h, .inl rfl⟩

theorem deactivate (c : AccessCore) (id : String) (now : Time) :
    c.Extends (c.setActive id false now).2 := by
  unfold setActive
  cases hr : c.roles.find? id with
  | none => exact .refl c
  | some r => exact ⟨rfl, Roles.extends_of_insert hr rfl rfl rfl, fun _ _ h => h, .inl rfl⟩

/-- A policy with a new id leaves the others. -/
theorem addPolicy (hdeny : c.settings.defaultDeny = true) (hnew : c.policies.find? p.id = none)
    (now : Time) : (c.addPolicy p now).2.Extends c := by
  unfold AccessCore.addPolicy
  cases p.fault? with
  | some fault => exact .refl c
  | none =>
    refine ⟨rfl, .refl _, fun id p' hp => ?_, .inr hdeny⟩
    have hne : id ≠ p.id := by
      rintro rfl
      rw [hnew] at hp
      cases hp
    show (placePolicy c.policies p now).find? id = some p'
    rw [placePolicy, hnew, Dict.find?_insert, if_neg hne, hp]

theorem removePolicy (hdeny : c.settings.defaultDeny = true) (id : String) :
    c.Extends (c.removePolicy id).2 := by
  unfold AccessCore.removePolicy
  cases c.policies.find? id with
  | none => exact .refl c
  | some p =>
    refine ⟨rfl, .refl _, fun a p' hp => ?_, .inr hdeny⟩
    have hkept : (c.policies.erase id).find? a = some p' := hp
    rw [Dict.find?_erase] at hkept
    split at hkept
    · cases hkept
    · exact hkept

end Extends

/-- What checks in one state say about checks in another one with the same stores, before a change
and after. -/
structure Monotone (c d : AccessCore) : Prop where
  request : ∀ q q' now now', q.Within q' → (c.check q now).1.reason.allows = true →
    (d.check q' now').1.reason.allows = true
  deactivate : ∀ id changed q now now', (c.check q now).1.reason.allows = false →
    ((d.setActive id false changed).2.check q now').1.reason.allows = false
  activate : ∀ id changed q now now', (c.check q now).1.reason.allows = true →
    ((d.setActive id true changed).2.check q now').1.reason.allows = true
  removePolicy : c.settings.defaultDeny = true → ∀ id q now now',
    (c.check q now).1.reason.allows = false →
      ((d.removePolicy id).2.check q now').1.reason.allows = false
  addPolicy : c.settings.defaultDeny = true → ∀ p, c.policies.find? p.id = none →
    ∀ changed q now now', (c.check q now).1.reason.allows = true →
      ((d.addPolicy p changed).2.check q now').1.reason.allows = true

/-- The second state may be the first one, or what any number of checks has made of it. -/
theorem monotone_of_sameStores (hc : c.Reachable) (hd : d.Reachable) (hsame : SameStores c d) :
    Monotone c d := by
  have hallows : ∀ {e : AccessCore}, e.Consistent → ∀ q now,
      (e.check q now).1.reason.allows = true ↔ e.Permits q :=
    fun he q now => he.check_allows_iff_permits q now
  have hdenies : ∀ {e : AccessCore}, e.Consistent → ∀ q now,
      (e.check q now).1.reason.allows = false ↔ ¬ e.Permits q :=
    fun he q now => by rw [← hallows he q now, Bool.not_eq_true]
  have hback : ∀ {q}, d.Permits q → c.Permits q := fun hq =>
    hq.mono (.of_sameStores ⟨hsame.settings.symm, hsame.policies.symm, hsame.roles.symm,
      hsame.permissions.symm⟩) (.refl _)
  have hforth : ∀ {q}, c.Permits q → d.Permits q := fun hq => hq.mono (.of_sameStores hsame) (.refl _)
  have hc := hc.consistent
  have hd := hd.consistent
  constructor
  case request =>
    intro q q' now now' hq
    rw [hallows hc, hallows hd]
    exact fun h => h.mono (.of_sameStores hsame) hq
  case deactivate =>
    intro id changed q now now'
    rw [hdenies hc, hdenies (hd.setActive id false changed)]
    exact fun h hafter => h (hback (hafter.mono (.deactivate d id changed) (.refl q)))
  case activate =>
    intro id changed q now now'
    rw [hallows hc, hallows (hd.setActive id true changed)]
    exact fun h => (hforth h).mono (.activate d id changed) (.refl q)
  case removePolicy =>
    intro hdeny id q now now'
    rw [hdenies hc, hdenies (hd.removePolicy id)]
    exact fun h hafter =>
      h (hback (hafter.mono (.removePolicy (hsame.settings ▸ hdeny) id) (.refl q)))
  case addPolicy =>
    intro hdeny p hnew changed q now now'
    rw [hallows hc, hallows (hd.addPolicy p changed)]
    have hextends := Extends.addPolicy (hsame.settings ▸ hdeny) (hsame.policies ▸ hnew) changed
    exact fun h => (hforth h).mono hextends (.refl q)

/-- A policy needs a role that the request has through another one and a permission that it has
through a third; without the role between, the kept verdict is gone and the request is denied. -/
theorem monotone_of_sameStores_kept_verdict :
    let q : Request := ⟨0, "ann", "reports", "write", ["lead"], .empty⟩
    let c := ((initial .standard 0).run [
      (.addRole { Role.new "lead" 50 3 with parents := ["user"], permissions := ["approve"] }, 4),
      (.addPolicy ⟨"p1", "", "report*", ["write"], ["authenticated"], ["approve"], .empty, none,
        none, none, 5, 5⟩, 5),
      (.setActive "user" false, 6)]).2
    let d := (c.check q 7).2
    c.Reachable ∧ d.Reachable ∧ SameStores c d ∧ c.settings.defaultDeny = true ∧
      (c.check q 7).1.reason = .notSatisfied ∧
      ((d.setActive "user" true 8).2.check q 9).1.reason = .allowedBy "p1" ∧
      ((d.setActive "authenticated" false 8).2.check q 9).1.reason.allows = false ∧
      ((d.removePolicy "p1").2.check q 9).1.reason.allows = false := by
  intro q c d
  have hc : c.Reachable := .run (.new (new_eq_ok_iff.mpr ⟨rfl, rfl⟩)) _
  have hd : d.Reachable := hc.call (.check q) 7
  have hsame : SameStores c d := sameStores_checkBefore c q none 7
  have hdeny : c.settings.defaultDeny = true := by unfold c; cbv
  have hreason : (c.check q 7).1.reason = .notSatisfied := by unfold c q; cbv
  have hdenied : (c.check q 7).1.reason.allows = false := by rw [hreason]; rfl
  have hmonotone := monotone_of_sameStores hc hd hsame
  refine ⟨hc, hd, hsame, hdeny, hreason, ?_, hmonotone.deactivate _ 8 q 7 9 hdenied,
    hmonotone.removePolicy hdeny _ q 7 9 hdenied⟩
  unfold d c q
  cbv

end AccessCore

end TagAtlas
