import Mathlib
import TagAtlas.Proofs.AccessConsistency

/-!
# The role hierarchy stays sound

No call stores a role with a parent that is not stored, or with itself among its ancestors. So the
walk up the hierarchy never comes back to a role on its path, and no check fails for that.
-/

namespace TagAtlas

theorem Reason.eq_failure_of_text {r : Reason} (h : r.text = "authorization_error") :
    r = .failure := by
  cases r with
  | allowedBy id =>
    have hprefix : "allowed by policy ".toList <+: "authorization_error".toList := by
      refine ⟨id.toList, ?_⟩
      rw [← String.toList_append]
      exact congrArg String.toList h
    exact absurd hprefix (by decide +kernel)
  | failure => rfl
  | defaultAllow => exact absurd h (by decide +kernel)
  | notSatisfied => exact absurd h (by decide +kernel)
  | noPolicy => exact absurd h (by decide +kernel)
  | invalidRequest => exact absurd h (by decide +kernel)
  | timeout => exact absurd h (by decide +kernel)

theorem Verdict.reason_ne_failure {settings : AccessSettings} {policies : Policies} {roles : Roles}
    {q : Request} {v : Verdict} (h : decide settings policies roles q = .ok v) :
    v.reason ≠ .failure := by
  obtain ⟨ids, _, rfl⟩ := decide_eq_ok_iff.mp h
  unfold ofPolicies
  dsimp only
  split
  · simp
  · split
    · simp
    · split <;> simp

namespace AccessCore

variable {c : AccessCore}

theorem reason_ne_failure_of_ruling {q : Request} {v : Verdict} (h : c.ruling q = .ok v) :
    v.reason ≠ .failure := by
  unfold ruling at h
  split at h
  · cases h
    simp
  · exact Verdict.reason_ne_failure h

theorem Consistent.reason_checkBefore_ne_failure (h : c.Consistent) (q : Request)
    (deadline : Option Time) (now : Time) :
    (c.checkBefore q deadline now).1.reason ≠ .failure := by
  rcases h.checkBefore_eq q deadline now with hr | ⟨_, hr, _⟩
  · exact reason_ne_failure_of_ruling hr
  · rw [hr]
    simp

/-- The stored roles are an acyclic hierarchy, and nothing that reads them fails. -/
structure HierarchySound (c : AccessCore) : Prop where
  parentStored : ∀ id r, c.roles.find? id = some r → ∀ p ∈ r.parents, c.roles.contains p = true
  acyclic : Roles.Acyclic c.roles
  /-- The walk up from the declared roles never comes back to a role on its path. -/
  climbs : ∀ hierarchical declared, ∃ ids, Roles.effective c.roles hierarchical declared = .ok ids
  tries : ∀ q now, ∃ d, (c.tryCheck q now).1 = .ok d
  checks : ∀ q deadline now,
    (c.checkBefore q deadline now).1.reason.text ≠ "authorization_error"

theorem hierarchySound_of_reachable (h : c.Reachable) : c.HierarchySound where
  parentStored id r hr p hp := h.consistent.hierarchy.parentStored id p ⟨r, hr, hp⟩
  acyclic := h.consistent.hierarchy.acyclic
  climbs := Roles.effective_ok h.consistent.hierarchy.acyclic
  tries q now := by
    obtain ⟨d, hd, _⟩ := h.consistent.tryCheck_eq q now
    exact ⟨d, hd⟩
  checks q deadline now htext :=
    h.consistent.reason_checkBefore_ne_failure q deadline now (Reason.eq_failure_of_text htext)

/-- A role that is replaced, a cycle that is refused, and a batch that joins parents. -/
theorem hierarchySound_after_changes :
    let lead (parents : List String) : Role := { Role.new "lead" 50 0 with parents := parents }
    let c := ((initial .standard 0).run [
      (.addRole (lead ["user"]), 1),
      (.addRole (lead ["guest"]), 2),
      (.addRole { Role.new "guest" 1 0 with parents := ["lead"] }, 3),
      (.setActive "guest" false, 4),
      (.apply ⟨[], [lead ["guest", "admin"]], []⟩, 5)]).2
    (c.roles.find? "lead").map Role.parents = some ["guest", "admin"] ∧
      (c.roles.find? "guest").map Role.parents = some [] ∧ c.HierarchySound := by
  intro lead c
  refine ⟨?_, ?_, hierarchySound_of_reachable (.run (.new (new_eq_ok_iff.mpr ⟨rfl, rfl⟩)) _)⟩
  · unfold c lead
    cbv
  · unfold c lead
    cbv

end AccessCore

end TagAtlas
