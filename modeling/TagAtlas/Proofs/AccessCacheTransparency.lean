import Mathlib
import TagAtlas.Proofs.AccessConsistency

/-!
# Kept verdicts do not show

Two states of access control are alike when they differ in their clocks, in what they keep and
count, and in whether they keep verdicts, but in nothing that a verdict depends on. Calls lead from
alike states to alike states and get the same verdicts, so a history gets the same verdicts with
kept verdicts and without.
-/

namespace TagAtlas

def Policy.untimed (p : Policy) : Policy := { p with createdAt := 0, updatedAt := 0 }

def Role.untimed (r : Role) : Role := { r with createdAt := 0, updatedAt := 0 }

@[simp] theorem Policy.untimed_id (p : Policy) : p.untimed.id = p.id := rfl

@[simp] theorem Role.untimed_id (r : Role) : r.untimed.id = r.id := rfl

@[simp] theorem Role.untimed_parents (r : Role) : r.untimed.parents = r.parents := rfl

theorem Role.absorb_untimed (stored incoming : Role) :
    (stored.absorb incoming).untimed = stored.untimed.absorb incoming.untimed := rfl

def Policies.untimed (policies : Policies) : Policies := policies.mapValues fun _ p => p.untimed

def Roles.untimed (roles : Roles) : Roles := roles.mapValues fun _ r => r.untimed

namespace Roles

variable {roles : Roles}

theorem untimed_builtin (now now' : Time) :
    untimed (Dict.ofList ((Role.builtin now).map fun r => (r.id, r))) =
      untimed (Dict.ofList ((Role.builtin now').map fun r => (r.id, r))) := by
  unfold untimed
  rw [Dict.mapValues_ofList, Dict.mapValues_ofList]
  rfl

theorem find?_untimed (id : String) :
    roles.untimed.find? id = (roles.find? id).map Role.untimed :=
  Dict.find?_mapValues _ _ _

theorem parentLists_untimed : roles.untimed.parentLists = roles.parentLists := by
  apply Dict.ext_find?
  intro id
  simp only [parentLists, Dict.find?_mapValues, find?_untimed, Option.map_map]
  rfl

theorem isActive_untimed (id : String) : roles.untimed.isActive id = roles.isActive id := by
  simp only [isActive, find?_untimed, Option.map_map]
  rfl

theorem parent_untimed_iff {a b : String} : roles.untimed.Parent a b ↔ roles.Parent a b := by
  rw [← edge_parentLists_iff, parentLists_untimed, edge_parentLists_iff]

theorem active_untimed_iff {id : String} : roles.untimed.Active id ↔ roles.Active id := by
  rw [← isActive_iff, isActive_untimed, isActive_iff]

theorem effective_untimed (ha : roles.Acyclic) (hierarchical : Bool) (declared : List String) :
    roles.untimed.effective hierarchical declared = roles.effective hierarchical declared := by
  have hparent : roles.untimed.Parent = roles.Parent := by
    funext a b
    exact propext parent_untimed_iff
  have hclimbs : roles.untimed.Climbs = roles.Climbs := by
    funext a b
    exact propext (and_congr parent_untimed_iff active_untimed_iff)
  refine effective_congr ?_ ha fun id => ?_
  · unfold Acyclic
    rw [hparent]
    exact ha
  · simp only [Stands, hclimbs, active_untimed_iff]

theorem storedRoles_untimed (ids : List String) :
    Verdict.storedRoles roles.untimed ids = (Verdict.storedRoles roles ids).map Role.untimed := by
  unfold Verdict.storedRoles
  rw [List.map_filterMap]
  exact congrArg (List.filterMap · ids) (funext find?_untimed)

theorem fault?_untimed (r : Role) : roles.untimed.fault? r.untimed = roles.fault? r := by
  have hparent : roles.untimed.parentFault? r.untimed = roles.parentFault? r := by
    funext p
    have hcontains : roles.untimed.contains p = roles.contains p := Dict.contains_mapValues _ _ _
    simp only [parentFault?, hcontains, Role.untimed_id]
  have hleads : roles.untimed.leadsTo r.parents r.id = roles.leadsTo r.parents r.id := by
    simp only [leadsTo, parentLists_untimed]
  simp only [fault?, Role.untimed_id, Role.untimed_parents, hparent, hleads]

theorem place_untimed (r : Role) (now : Time) :
    (roles.place r now).untimed = roles.untimed.place r.untimed 0 := by
  unfold place
  rw [Role.untimed_id, find?_untimed]
  cases roles.find? r.id with
  | none => exact Dict.mapValues_insert _ _ _ _
  | some old => exact Dict.mapValues_insert _ _ _ _

theorem add_untimed (r : Role) (now : Time) :
    (roles.add r now).map untimed = roles.untimed.add r.untimed 0 := by
  unfold add
  rw [fault?_untimed]
  cases roles.fault? r with
  | some fault => rfl
  | none => exact congrArg Except.ok (place_untimed r now)

theorem addAll_untimed (now : Time) (incoming : List Role) :
    (roles.addAll now incoming).map untimed =
      roles.untimed.addAll 0 (incoming.map Role.untimed) := by
  induction incoming generalizing roles with
  | nil => rfl
  | cons r rest ih =>
    rw [List.map_cons]
    unfold addAll
    rw [Role.untimed_id, find?_untimed]
    cases roles.find? r.id with
    | none =>
      dsimp only [Option.map_none]
      rw [← add_untimed r now]
      cases roles.add r now with
      | error f => rfl
      | ok roles' => exact ih
    | some stored =>
      dsimp only [Option.map_some]
      rw [← Role.absorb_untimed, ← add_untimed _ now]
      cases roles.add (stored.absorb r) now with
      | error f => rfl
      | ok roles' => exact ih

end Roles

namespace Verdict

variable {settings : AccessSettings} {policies : Policies} {roles : Roles} {q : Request}

theorem matching_untimed :
    matching policies.untimed q = (matching policies q).map Policy.untimed := by
  unfold matching Policies.untimed
  rw [Dict.values_mapValues, List.filter_map]
  rfl

theorem satisfies_untimed (ids : List String) (p : Policy) :
    satisfies settings roles.untimed ids q p.untimed = satisfies settings roles ids q p := by
  unfold satisfies
  rw [Roles.storedRoles_untimed]
  simp only [List.any_map]
  rfl

theorem ofPolicies_untimed (ids : List String) :
    ofPolicies settings policies.untimed roles.untimed ids q =
      ofPolicies settings policies roles ids q := by
  have hfind : (matching policies.untimed q).find? (satisfies settings roles.untimed ids q) =
      ((matching policies q).find? (satisfies settings roles ids q)).map Policy.untimed := by
    rw [matching_untimed, List.find?_map]
    congr 1
    exact congrArg (List.find? · _) (funext fun p => satisfies_untimed ids p)
  have happlied : (matching policies.untimed q).map Policy.id =
      (matching policies q).map Policy.id := by
    rw [matching_untimed, List.map_map]
    rfl
  have hempty : (matching policies.untimed q).isEmpty = (matching policies q).isEmpty := by
    rw [matching_untimed, List.isEmpty_map]
  simp only [ofPolicies, hfind, happlied, hempty]
  cases (matching policies q).find? (satisfies settings roles ids q) <;> rfl

/-- A verdict does not depend on when policies and roles were stored. -/
theorem decide_untimed (ha : roles.Acyclic) :
    decide settings policies.untimed roles.untimed q = decide settings policies roles q := by
  unfold decide
  rw [Roles.effective_untimed ha]
  congr 1
  funext ids
  exact ofPolicies_untimed ids

end Verdict

/-- The verdict that a check is answered; other calls are answered none. -/
def AccessAnswer.verdict? : AccessAnswer → Option (Except Failure Verdict)
  | .checked d => some (.ok ⟨d.reason, d.applied⟩)
  | .tried d => some (d.map fun d => ⟨d.reason, d.applied⟩)
  | _ => none

namespace AccessCore

variable {c d : AccessCore}

theorem placePolicy_untimed (policies : Policies) (p : Policy) (now : Time) :
    (placePolicy policies p now).untimed = placePolicy policies.untimed p.untimed 0 := by
  have hfind : policies.untimed.find? p.id = (policies.find? p.id).map Policy.untimed :=
    Dict.find?_mapValues _ _ _
  unfold placePolicy
  rw [Policy.untimed_id, hfind]
  cases policies.find? p.id with
  | none => exact Dict.mapValues_insert _ _ _ _
  | some old => exact Dict.mapValues_insert _ _ _ _

theorem foldl_placePolicy_untimed (incoming : List Policy) (policies : Policies) (now : Time) :
    Policies.untimed (incoming.foldl (fun ps p => placePolicy ps p now) policies) =
      (incoming.map Policy.untimed).foldl (fun ps p => placePolicy ps p 0) policies.untimed := by
  induction incoming generalizing policies with
  | nil => rfl
  | cons p rest ih =>
    rw [List.foldl_cons, ih, placePolicy_untimed]
    rfl

theorem sameStores_conclude (c : AccessCore) (q : Request) (o : Outcome) :
    SameStores c (c.conclude q o).2 := by
  obtain ⟨_, _, log, hlog⟩ := conclude_spec c q o
  rw [hlog]
  exact ⟨rfl, rfl, rfl, rfl⟩

theorem sameStores_checkBefore (c : AccessCore) (q : Request) (deadline : Option Time)
    (now : Time) : SameStores c (c.checkBefore q deadline now).2 := by
  have hc := (consult_spec c q deadline now).stores
  unfold checkBefore
  split <;> rename_i heq <;> rw [heq] at hc <;> exact hc.trans (sameStores_conclude ..)

theorem sameStores_tryCheck (c : AccessCore) (q : Request) (now : Time) :
    SameStores c (c.tryCheck q now).2 := by
  have hc := (consult_spec c q none now).stores
  unfold tryCheck
  split <;> rename_i heq <;> rw [heq] at hc
  · exact hc.trans (sameStores_conclude ..)
  · exact hc

/-- Alike states differ in nothing that a verdict depends on. -/
structure Alike (c d : AccessCore) : Prop where
  settings : d.settings = { c.settings with cacheEnabled := d.settings.cacheEnabled }
  policies : c.policies.untimed = d.policies.untimed
  roles : c.roles.untimed = d.roles.untimed

namespace Alike

theorem ruling_eq (h : Alike c d) (hc : c.Consistent) (hd : d.Consistent) (q : Request) :
    c.ruling q = d.ruling q := by
  unfold ruling refuses
  rw [← Verdict.decide_untimed hc.hierarchy.acyclic, ← Verdict.decide_untimed hd.hierarchy.acyclic,
    h.policies, h.roles, h.settings]
  rfl

theorem of_sameStores (h : Alike c d) {c' d' : AccessCore} (hc : SameStores c c')
    (hd : SameStores d d') : Alike c' d' where
  settings := by
    rw [hc.settings, hd.settings]
    exact h.settings
  policies := by
    rw [hc.policies, hd.policies]
    exact h.policies
  roles := by
    rw [hc.roles, hd.roles]
    exact h.roles

theorem addPolicy (h : Alike c d) (p : Policy) (now now' : Time) :
    Alike (c.addPolicy p now).2 (d.addPolicy p now').2 := by
  unfold AccessCore.addPolicy
  cases p.fault? with
  | some fault => exact h
  | none =>
    refine ⟨h.settings, ?_, h.roles⟩
    show Policies.untimed (placePolicy _ _ _) = Policies.untimed (placePolicy _ _ _)
    rw [placePolicy_untimed, placePolicy_untimed, h.policies]

theorem removePolicy (h : Alike c d) (id : String) :
    Alike (c.removePolicy id).2 (d.removePolicy id).2 := by
  have hfind := congrArg (Dict.find? · id) h.policies
  simp only [Policies.untimed, Dict.find?_mapValues] at hfind
  unfold AccessCore.removePolicy
  cases hc : c.policies.find? id with
  | none =>
    have hd : d.policies.find? id = none := by simpa [hc] using hfind.symm
    rw [hd]
    exact h
  | some p =>
    obtain ⟨p', hd, _⟩ : ∃ p', d.policies.find? id = some p' ∧ p'.untimed = p.untimed := by
      simpa [hc] using hfind.symm
    rw [hd]
    refine ⟨h.settings, ?_, h.roles⟩
    show Policies.untimed (c.policies.erase id) = Policies.untimed (d.policies.erase id)
    unfold Policies.untimed
    rw [Dict.mapValues_erase, Dict.mapValues_erase]
    exact congrArg (Dict.erase · id) h.policies

theorem addRole (h : Alike c d) (r : Role) (now now' : Time) :
    Alike (c.addRole r now).2 (d.addRole r now').2 := by
  have hadd : (c.roles.add r now).map Roles.untimed = (d.roles.add r now').map Roles.untimed := by
    rw [Roles.add_untimed, Roles.add_untimed, h.roles]
  unfold AccessCore.addRole
  cases hc : c.roles.add r now <;> cases hd : d.roles.add r now' <;> rw [hc, hd] at hadd
  case error.error => exact h
  case ok.ok => exact ⟨h.settings, h.policies, Except.ok.inj hadd⟩
  all_goals cases hadd

theorem setActive (h : Alike c d) (id : String) (active : Bool) (now now' : Time) :
    Alike (c.setActive id active now).2 (d.setActive id active now').2 := by
  have hfind := congrArg (Dict.find? · id) h.roles
  simp only [Roles.find?_untimed] at hfind
  unfold AccessCore.setActive
  cases hc : c.roles.find? id with
  | none =>
    have hd : d.roles.find? id = none := by simpa [hc] using hfind.symm
    rw [hd]
    exact h
  | some r =>
    obtain ⟨r', hd, hr⟩ : ∃ r', d.roles.find? id = some r' ∧ r'.untimed = r.untimed := by
      simpa [hc] using hfind.symm
    rw [hd]
    refine ⟨h.settings, h.policies, ?_⟩
    have hset : ({ r with active := active, updatedAt := now } : Role).untimed =
        ({ r' with active := active, updatedAt := now' } : Role).untimed := by
      simp only [Role.untimed, Role.mk.injEq] at hr ⊢
      simp [hr]
    show Roles.untimed (c.roles.insert id _) = Roles.untimed (d.roles.insert id _)
    unfold Roles.untimed
    rw [Dict.mapValues_insert, Dict.mapValues_insert, hset]
    exact congrArg (Dict.insert · id _) h.roles

theorem apply (h : Alike c d) (b : Batch) (now now' : Time) :
    Alike (c.apply b now).2 (d.apply b now').2 := by
  have hadd : (c.roles.addAll now b.roles).map Roles.untimed =
      (d.roles.addAll now' b.roles).map Roles.untimed := by
    rw [Roles.addAll_untimed, Roles.addAll_untimed, h.roles]
  unfold AccessCore.apply
  cases policyFault? b.policies with
  | some fault => exact h
  | none =>
    dsimp only
    cases hc : c.roles.addAll now b.roles <;> cases hd : d.roles.addAll now' b.roles <;>
      rw [hc, hd] at hadd
    case error.error => exact h
    case ok.ok =>
      refine ⟨h.settings, ?_, Except.ok.inj hadd⟩
      show Policies.untimed (b.policies.foldl _ _) = Policies.untimed (b.policies.foldl _ _)
      rw [foldl_placePolicy_untimed, foldl_placePolicy_untimed, h.policies]
    all_goals cases hadd

theorem answer (h : Alike c d) (now now' : Time) (a : AccessCall) :
    Alike (c.answer now a).2 (d.answer now' a).2 := by
  unfold AccessCore.answer
  cases a with
  | addPolicy p => simpa only [Prod.map_snd, id_eq] using h.addPolicy p now now'
  | removePolicy id => simpa only [Prod.map_snd, id_eq] using h.removePolicy id
  | addRole r => simpa only [Prod.map_snd, id_eq] using h.addRole r now now'
  | setActive id active =>
    simpa only [Prod.map_snd, id_eq] using h.setActive id active now now'
  | apply b => simpa only [Prod.map_snd, id_eq] using h.apply b now now'
  | addPermission p => exact ⟨h.settings, h.policies, h.roles⟩
  | clearDecisions => exact ⟨h.settings, h.policies, h.roles⟩
  | check q =>
    simp only [Prod.map_snd, id_eq]
    exact h.of_sameStores (sameStores_checkBefore ..) (sameStores_checkBefore ..)
  | checkBefore q deadline =>
    simp only [Prod.map_snd, id_eq]
    exact h.of_sameStores (sameStores_checkBefore ..) (sameStores_checkBefore ..)
  | tryCheck q =>
    simp only [Prod.map_snd, id_eq]
    exact h.of_sameStores (sameStores_tryCheck ..) (sameStores_tryCheck ..)

theorem verdict?_answer (h : Alike c d) (hc : c.Consistent) (hd : d.Consistent) (now now' : Time)
    (a : AccessCall) : (c.answer now a).1.verdict? = (d.answer now' a).1.verdict? := by
  cases a with
  | check q =>
    simp only [AccessCore.answer, Prod.map_fst, AccessAnswer.verdict?]
    rw [← hc.check_eq q now, ← hd.check_eq q now', h.ruling_eq hc hd q]
  | tryCheck q =>
    obtain ⟨e, he, hr⟩ := hc.tryCheck_eq q now
    obtain ⟨e', he', hr'⟩ := hd.tryCheck_eq q now'
    simp only [AccessCore.answer, Prod.map_fst, AccessAnswer.verdict?, he, he', Except.map]
    rw [← hr, ← hr', h.ruling_eq hc hd q]
  | _ => simp only [AccessCore.answer, Prod.map_fst, AccessAnswer.verdict?]

/-- Alike states give the checks of a history the same verdicts, whatever their clocks show. -/
theorem verdicts_run (h : Alike c d) (hc : c.Consistent) (hd : d.Consistent)
    (calls : List (AccessCall × Time × Time)) :
    (c.run (calls.map fun e => (e.1, e.2.1))).1.map AccessAnswer.verdict? =
      (d.run (calls.map fun e => (e.1, e.2.2))).1.map AccessAnswer.verdict? := by
  -- the step keeps both invariants: alike stores, and verdicts that are kept only if fresh
  induction calls generalizing c d with
  | nil => rfl
  | cons e rest ih =>
    obtain ⟨a, now, now'⟩ := e
    simp only [List.map_cons, run]
    rw [h.verdict?_answer hc hd now now' a,
      ih (h.answer now now' a) (hc.answer now a) (hd.answer now' a)]

end Alike

/-- A history gets the same verdicts from access control that keeps verdicts and from one that does
not, at whatever times the two start and are called. -/
theorem verdicts_eq_without_cache {settings : AccessSettings} {start : Time}
    (h : AccessCore.new settings start = .ok c) (start' : Time)
    (calls : List (AccessCall × Time × Time)) :
    ∃ d, AccessCore.new { settings with cacheEnabled := false } start' = .ok d ∧
      (c.run (calls.map fun e => (e.1, e.2.1))).1.map AccessAnswer.verdict? =
        (d.run (calls.map fun e => (e.1, e.2.2))).1.map AccessAnswer.verdict? := by
  obtain ⟨_, rfl⟩ := new_eq_ok_iff.mp h
  have hd : AccessCore.new { settings with cacheEnabled := false } start' =
      .ok (initial { settings with cacheEnabled := false } start') := new_eq_ok_iff.mpr ⟨rfl, rfl⟩
  have halike : Alike (initial settings start)
      (initial { settings with cacheEnabled := false } start') :=
    ⟨rfl, rfl, Roles.untimed_builtin start start'⟩
  exact ⟨_, hd, halike.verdicts_run (.of_new h) (.of_new hd) calls⟩

/-- A kept verdict is used, and then dropped together with its policy. -/
theorem verdicts_eq_without_cache_removed_policy :
    let q : Request := ⟨0, "ann", "reports", "write", ["user"], .empty⟩
    let p (id : String) : Policy :=
      ⟨id, "", "report*", [], ["guest"], [], .empty, none, none, none, 5, 5⟩
    let calls : List (AccessCall × Time × Time) := [(.addPolicy (p "p1"), 5, 9),
      (.addPolicy (p "p2"), 5, 2), (.check q, 6, 4), (.tryCheck q, 7, 0),
      (.removePolicy "p1", 8, 8), (.check q, 9, 3)]
    let answers := ((initial .standard 0).run (calls.map fun e => (e.1, e.2.1))).1
    answers.map AccessAnswer.verdict? = [none, none, some (.ok ⟨.allowedBy "p1", ["p1", "p2"]⟩),
        some (.ok ⟨.allowedBy "p1", ["p1", "p2"]⟩), none, some (.ok ⟨.allowedBy "p2", ["p2"]⟩)] ∧
      ∃ d, AccessCore.new { AccessSettings.standard with cacheEnabled := false } 2 = .ok d ∧
        answers.map AccessAnswer.verdict? =
          (d.run (calls.map fun e => (e.1, e.2.2))).1.map AccessAnswer.verdict? := by
  intro q p calls answers
  refine ⟨?_, verdicts_eq_without_cache (new_eq_ok_iff.mpr ⟨rfl, rfl⟩) 2 calls⟩
  unfold answers calls p q
  cbv

end AccessCore

end TagAtlas
