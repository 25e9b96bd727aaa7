import TagAtlas.Proofs.AccessHistory
import TagAtlas.Proofs.RoleHierarchyUpdates

/-!
# Kept verdicts are the ones that deciding afresh would give

The invariant of access control: policies stand under their own ids, roles are a hierarchy, and
every kept verdict is what the stores say now about every request with its key. A change of roles
drops all kept verdicts. A change of a policy drops those to which the policy was applied or could
be; in the rest neither the old policy nor the new one matches, so they match the same policies.
-/

namespace TagAtlas

namespace Verdict

variable {settings : AccessSettings} {policies policies' : Policies} {roles : Roles}
  {q q' : Request} {v : Verdict}

theorem decide_eq_ok_iff : decide settings policies roles q = .ok v ↔
    ∃ ids, Roles.effective roles settings.hierarchical q.roles = .ok ids ∧
      ofPolicies settings policies roles ids q = v := by
  unfold decide
  cases Roles.effective roles settings.hierarchical q.roles <;> simp [Except.map]

theorem decide_ok (ha : Roles.Acyclic roles) (settings : AccessSettings) (policies : Policies)
    (q : Request) : ∃ v, decide settings policies roles q = .ok v := by
  obtain ⟨ids, hi⟩ := Roles.effective_ok ha settings.hierarchical q.roles
  exact ⟨_, decide_eq_ok_iff.mpr ⟨ids, hi, rfl⟩⟩

/-- Requests with one key get one verdict: the order and repetition of roles do not count. -/
theorem decide_congr_key (ha : Roles.Acyclic roles) (h : q.key = q'.key) :
    decide settings policies roles q = decide settings policies roles q' := by
  obtain ⟨id, subject, resource, action, declared, context⟩ := q
  obtain ⟨id', subject', resource', action', declared', context'⟩ := q'
  simp only [Request.key, DecisionKey.mk.injEq] at h
  obtain ⟨rfl, rfl, rfl, hroles, rfl⟩ := h
  have hmem : ∀ x, x ∈ declared ↔ x ∈ declared' := by
    intro x
    rw [← Dict.mem_sortedSet, hroles, Dict.mem_sortedSet]
  have heff : Roles.effective roles settings.hierarchical declared =
      Roles.effective roles settings.hierarchical declared' :=
    Roles.effective_congr ha ha fun id => by simp only [Roles.Stands, hmem]
  simp only [decide, heff]
  rfl

theorem decide_congr_matching (h : matching policies q = matching policies' q) :
    decide settings policies roles q = decide settings policies' roles q := by
  simp only [decide, ofPolicies, h]

theorem applied_of_decide (h : decide settings policies roles q = .ok v) :
    v.applied = (matching policies q).map Policy.id := by
  obtain ⟨ids, _, rfl⟩ := decide_eq_ok_iff.mp h
  rfl

theorem mem_matching_iff {p : Policy} : p ∈ matching policies q ↔
    (∃ id, policies.find? id = some p) ∧
      p.coversResource q.resource = true ∧ p.coversAction q.action = true := by
  simp [matching, Dict.mem_values_iff]

end Verdict

namespace AccessCore

structure Consistent (c : AccessCore) : Prop where
  policyIds : ∀ id p, c.policies.find? id = some p → p.id = id
  hierarchy : Roles.IsHierarchy c.roles
  fresh : ∀ key v, c.decisions.Keeps key v → ∀ q : Request, q.key = key → c.Decides q v

variable {c d : AccessCore}

theorem exists_placePolicy_eq (policies : Policies) (p : Policy) (now : Time) :
    ∃ created updated, placePolicy policies p now =
      policies.insert p.id { p with createdAt := created, updatedAt := updated } := by
  unfold placePolicy
  cases policies.find? p.id with
  | none => exact ⟨p.createdAt, p.updatedAt, rfl⟩
  | some old => exact ⟨old.createdAt, now, rfl⟩

theorem policyIds_placePolicy {policies : Policies} {p : Policy} {now : Time}
    (h : ∀ id p, policies.find? id = some p → p.id = id) :
    ∀ id p', (placePolicy policies p now).find? id = some p' → p'.id = id := by
  intro id p' hp
  obtain ⟨created, updated, heq⟩ := exists_placePolicy_eq policies p now
  rw [heq, Dict.find?_insert] at hp
  split at hp
  next hid => cases hp; exact hid.symm
  next => exact h id p' hp

theorem policyIds_foldl_placePolicy {incoming : List Policy} {policies : Policies} {now : Time}
    (h : ∀ id p, policies.find? id = some p → p.id = id) :
    ∀ id p', (incoming.foldl (fun ps p => placePolicy ps p now) policies).find? id = some p' →
      p'.id = id := by
  induction incoming generalizing policies with
  | nil => exact h
  | cons p rest ih => exact ih (policyIds_placePolicy h)

namespace Consistent

/-- Taking out the verdicts that a policy touches is enough when only policies under its id, or
with its pattern, change. -/
theorem invalidate (h : c.Consistent) {policies : Policies} (p : Policy)
    (hids : ∀ id p', policies.find? id = some p' → p'.id = id)
    (hmatch : ∀ q : Request, p.coversResource q.resource = false →
      (∀ old, c.policies.find? p.id = some old →
        (old.coversResource q.resource && old.coversAction q.action) = false) →
      Verdict.matching policies q = Verdict.matching c.policies q) :
    ({ c with policies := policies }.invalidate p).Consistent where
  policyIds := hids
  hierarchy := h.hierarchy
  fresh key v hkeep q hq := by
    have hleft : (c.decisions.removeWhere fun key v =>
        v.applied.contains p.id || p.coversResource key.resource).2.Keeps key v := hkeep
    obtain ⟨hkept, htouch⟩ := Store.keeps_of_removeWhere hleft
    have hdec : c.Decides q v := h.fresh key v hkept q hq
    subst hq
    obtain ⟨hid, hcov⟩ := Bool.or_eq_false_iff.mp htouch
    have hsame : Verdict.matching policies q = Verdict.matching c.policies q := by
      refine hmatch q hcov ?_
      intro old hold
      -- had the old policy matched, it would have been applied, and the verdict taken out
      by_contra hc
      have hm : old ∈ Verdict.matching c.policies q :=
        Verdict.mem_matching_iff.mpr ⟨⟨_, hold⟩, by simpa using hc⟩
      have happ : p.id ∈ v.applied := by
        rw [Verdict.applied_of_decide hdec, ← h.policyIds _ _ hold]
        exact List.mem_map_of_mem hm
      simp [happ] at hid
    exact (Verdict.decide_congr_matching hsame).trans hdec

theorem addPolicy (h : c.Consistent) (p : Policy) (now : Time) :
    (c.addPolicy p now).2.Consistent := by
  unfold AccessCore.addPolicy
  split
  · exact h
  · refine h.invalidate p (policyIds_placePolicy h.policyIds) ?_
    intro q hcov hold
    obtain ⟨created, updated, heq⟩ := exists_placePolicy_eq c.policies p now
    rw [heq]
    refine Dict.filter_values_insert _ _ _ _ ?_ hold
    simp only [Policy.coversResource] at hcov ⊢
    simp [hcov]

theorem removePolicy (h : c.Consistent) (id : String) : (c.removePolicy id).2.Consistent := by
  unfold AccessCore.removePolicy
  split
  · exact h
  next p hp =>
    have hpid : p.id = id := h.policyIds id p hp
    refine h.invalidate p ?_ ?_
    · intro id' p' hp'
      rw [Dict.find?_erase] at hp'
      split at hp'
      · cases hp'
      · exact h.policyIds id' p' hp'
    · intro q _ hold
      exact Dict.filter_values_erase _ _ _ (hpid ▸ hold)

/-- Without kept verdicts, only the stores matter. -/
theorem of_stores (hids : ∀ id p, c.policies.find? id = some p → p.id = id)
    (hroles : Roles.IsHierarchy c.roles) : c.clearDecisions.Consistent :=
  ⟨hids, hroles, fun _ _ hkeep => absurd hkeep Store.not_keeps_clear⟩

theorem clearDecisions (h : c.Consistent) : c.clearDecisions.Consistent :=
  of_stores h.policyIds h.hierarchy

theorem addRole (h : c.Consistent) (r : Role) (now : Time) : (c.addRole r now).2.Consistent := by
  unfold AccessCore.addRole
  split
  · exact h
  next roles hr => exact of_stores h.policyIds (h.hierarchy.add hr)

theorem setActive (h : c.Consistent) (id : String) (active : Bool) (now : Time) :
    (c.setActive id active now).2.Consistent := by
  unfold AccessCore.setActive
  split
  · exact h
  next r hr => exact of_stores h.policyIds (h.hierarchy.insert_restated hr rfl rfl)

theorem apply (h : c.Consistent) (b : Batch) (now : Time) : (c.apply b now).2.Consistent := by
  unfold AccessCore.apply
  split
  · exact h
  · split
    · exact h
    next roles hr =>
      exact of_stores (policyIds_foldl_placePolicy h.policyIds) (h.hierarchy.addAll hr)

theorem addPermission (h : c.Consistent) (p : Permission) :
    (c.addPermission p).2.Consistent :=
  ⟨h.policyIds, h.hierarchy, h.fresh⟩

theorem of_consulted (h : c.Consistent) {q : Request} {deadline : Option Time} {now : Time}
    {r : Except Failure Outcome × AccessCore} (hc : Consulted c q deadline now r) :
    r.2.Consistent where
  policyIds := hc.stores.policies ▸ h.policyIds
  hierarchy := hc.stores.roles ▸ h.hierarchy
  fresh key v hkeep q' hq' := by
    have hdec : c.Decides q' v := by
      rcases hc.keeps key v hkeep with hold | ⟨rfl, hnew⟩
      · exact h.fresh key v hold q' hq'
      · exact (Verdict.decide_congr_key h.hierarchy.acyclic hq').trans hnew
    unfold Decides
    rw [hc.stores.settings, hc.stores.policies, hc.stores.roles]
    exact hdec

theorem conclude (h : c.Consistent) (q : Request) (o : Outcome) :
    (c.conclude q o).2.Consistent := by
  obtain ⟨_, _, log, hlog⟩ := conclude_spec c q o
  rw [hlog]
  exact ⟨h.policyIds, h.hierarchy, h.fresh⟩

theorem checkBefore (h : c.Consistent) (q : Request) (deadline : Option Time) (now : Time) :
    (c.checkBefore q deadline now).2.Consistent := by
  have hc := h.of_consulted (consult_spec c q deadline now)
  unfold AccessCore.checkBefore
  split <;> rename_i heq <;> rw [heq] at hc <;> exact hc.conclude _ _

theorem tryCheck (h : c.Consistent) (q : Request) (now : Time) :
    (c.tryCheck q now).2.Consistent := by
  have hc := h.of_consulted (consult_spec c q none now)
  unfold AccessCore.tryCheck
  split <;> rename_i heq <;> rw [heq] at hc
  · exact hc.conclude _ _
  · exact hc

theorem answer (h : c.Consistent) (now : Time) (a : AccessCall) :
    (c.answer now a).2.Consistent := by
  unfold AccessCore.answer
  cases a with
  | addPolicy p => simpa only [Prod.map_snd, id_eq] using h.addPolicy p now
  | removePolicy id => simpa only [Prod.map_snd, id_eq] using h.removePolicy id
  | addRole r => simpa only [Prod.map_snd, id_eq] using h.addRole r now
  | setActive id active => simpa only [Prod.map_snd, id_eq] using h.setActive id active now
  | apply b => simpa only [Prod.map_snd, id_eq] using h.apply b now
  | addPermission p => simpa only [Prod.map_snd, id_eq] using h.addPermission p
  | clearDecisions => exact h.clearDecisions
  | check q =>
    rw [Prod.map_snd]
    exact h.checkBefore q none now
  | checkBefore q deadline =>
    simpa only [Prod.map_snd, id_eq] using h.checkBefore q (some deadline) now
  | tryCheck q => simpa only [Prod.map_snd, id_eq] using h.tryCheck q now

theorem of_new {settings : AccessSettings} {now : Time}
    (h : AccessCore.new settings now = .ok c) : c.Consistent := by
  obtain ⟨_, rfl⟩ := new_eq_ok_iff.mp h
  refine ⟨fun id p hp => ?_, Roles.isHierarchy_builtin now, fun _ _ hkeep => ?_⟩
  · simp [initial] at hp
  · exact absurd hkeep Store.not_keeps_new

end Consistent

theorem Reachable.consistent (h : c.Reachable) : c.Consistent := by
  induction h with
  | new h => exact .of_new h
  | call a now _ ih => exact ih.answer now a

/-! ### Answers are rulings -/

namespace Consistent

theorem ruling_eq_of_ok (h : c.Consistent) {q : Request} {deadline : Option Time} {now : Time}
    {r : Except Failure Outcome × AccessCore} (hc : Consulted c q deadline now r) {o : Outcome}
    (ho : r.1 = .ok o) : c.ruling q = .ok o.verdict := by
  unfold ruling
  rcases hc.ok o ho with ⟨hr, rfl, _⟩ | ⟨hr, _, ⟨_, hkeep⟩ | ⟨_, hdec⟩⟩
  · rw [if_pos hr]
  · rw [if_neg (by simp [hr])]
    exact h.fresh _ _ hkeep q rfl
  · rw [if_neg (by simp [hr])]
    exact hdec

/-- Deciding fails for want of time only. -/
theorem timeout_of_error (h : c.Consistent) {q : Request} {deadline : Option Time} {now : Time}
    {r : Except Failure Outcome × AccessCore} (hc : Consulted c q deadline now r) {f : Failure}
    (hf : r.1 = .error f) : isPast deadline now = true ∧ ∃ what, f = .timeout what := by
  rcases (hc.error f hf).2.2 with hpast | hdec
  · exact hpast
  · obtain ⟨v, hv⟩ := Verdict.decide_ok h.hierarchy.acyclic c.settings c.policies q
    rw [hv] at hdec
    cases hdec

theorem tryCheck_eq (h : c.Consistent) (q : Request) (now : Time) :
    ∃ d, (c.tryCheck q now).1 = .ok d ∧ c.ruling q = .ok ⟨d.reason, d.applied⟩ := by
  have hc := consult_spec c q none now
  unfold AccessCore.tryCheck
  split
  next o c' heq =>
    obtain ⟨hr, ha, _⟩ := conclude_spec c' q o
    refine ⟨_, rfl, ?_⟩
    rw [hr, ha]
    exact h.ruling_eq_of_ok hc (by rw [heq])
  next f c' heq =>
    have := (h.timeout_of_error hc (by rw [heq])).1
    simp [isPast] at this

theorem checkBefore_eq (h : c.Consistent) (q : Request) (deadline : Option Time) (now : Time) :
    c.ruling q = .ok ⟨(c.checkBefore q deadline now).1.reason,
        (c.checkBefore q deadline now).1.applied⟩ ∨
      isPast deadline now = true ∧ (c.checkBefore q deadline now).1.reason = .timeout ∧
        (c.checkBefore q deadline now).1.applied = [] := by
  have hc := consult_spec c q deadline now
  unfold AccessCore.checkBefore
  split
  next o c' heq =>
    obtain ⟨hr, ha, _⟩ := conclude_spec c' q o
    rw [hr, ha]
    exact .inl (h.ruling_eq_of_ok hc (by rw [heq]))
  next what c' heq =>
    obtain ⟨hr, ha, _⟩ := conclude_spec c' q ⟨⟨.timeout, []⟩, false⟩
    exact .inr ⟨(h.timeout_of_error hc (by rw [heq])).1, hr, ha⟩
  next f c' hnot heq =>
    obtain ⟨_, what, rfl⟩ := h.timeout_of_error hc (by rw [heq])
    exact absurd rfl (hnot what)

theorem check_eq (h : c.Consistent) (q : Request) (now : Time) :
    c.ruling q = .ok ⟨(c.check q now).1.reason, (c.check q now).1.applied⟩ := by
  rcases h.checkBefore_eq q none now with hr | ⟨hpast, _⟩
  · exact hr
  · simp [isPast] at hpast

end Consistent

end AccessCore

end TagAtlas
