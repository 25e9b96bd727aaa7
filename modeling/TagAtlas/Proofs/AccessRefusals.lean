import TagAtlas.Proofs.AccessHistory
import TagAtlas.Proofs.RoleBatches

/-!
# Refused changes leave no trace

A change is refused just when something is wrong with it, and then nothing of it happens: neither
stores nor kept verdicts nor counters nor log move, however far into a batch the fault lies. So a
history leads where it would lead without its refused changes, with the same other answers.
-/

namespace TagAtlas

def AccessAnswer.refusal? : AccessAnswer → Option Failure
  | .added (.error f) | .removed (.error f) | .done (.error f) => some f
  | _ => none

namespace AccessCore

/-- What is wrong with a change, and the failure that reports it. In a batch a faulty policy counts
before all roles, and a role counts as it is joined to what the roles before it have made. -/
inductive Offends (c : AccessCore) (now : Time) : AccessCall → Failure → Prop
  | policy {p : Policy} {fault : Policy.Fault} (hp : p.fault? = some fault) :
      Offends c now (.addPolicy p) (.invalidInput fault.message)
  | missingPolicy {id : String} (h : c.policies.find? id = none) :
      Offends c now (.removePolicy id) (.notFound ("policy " ++ id))
  | role {r : Role} {fault : Roles.Fault} (hr : c.roles.fault? r = some fault) :
      Offends c now (.addRole r) (.invalidInput fault.message)
  | missingRole {id : String} {active : Bool} (h : c.roles.find? id = none) :
      Offends c now (.setActive id active) (.notFound ("role " ++ id))
  | batchPolicy {b : Batch} {before after : List Policy} {p : Policy} {fault : Policy.Fault}
      (hsplit : b.policies = before ++ p :: after) (hbefore : ∀ q ∈ before, q.fault? = none)
      (hp : p.fault? = some fault) : Offends c now (.apply b) (.invalidInput fault.message)
  | batchRole {b : Batch} {before after : List Role} {r : Role} {staged : Roles}
      {fault : Roles.Fault} (hpolicies : ∀ p ∈ b.policies, p.fault? = none)
      (hsplit : b.roles = before ++ r :: after)
      (hbefore : c.roles.addAll now before = .ok staged)
      (hr : staged.fault? (staged.joined r) = some fault) :
      Offends c now (.apply b) (.invalidInput fault.message)

/-- The calls of a history that are not refused. -/
def accepted (c : AccessCore) : List (AccessCall × Time) → List (AccessCall × Time)
  | [] => []
  | (call, now) :: rest =>
    let (a, d) := c.answer now call
    if a.refusal?.isSome then d.accepted rest else (call, now) :: d.accepted rest

variable {c : AccessCore} {now : Time} {f : Failure} {p : Policy} {r : Role} {id : String}
  {active : Bool} {b : Batch}

/-! ### When a change is refused -/

theorem addPolicy_eq_error_iff :
    (c.addPolicy p now).1 = .error f ↔ c.Offends now (.addPolicy p) f := by
  unfold addPolicy
  constructor
  · intro h
    cases hp : p.fault? with
    | none => simp [hp] at h
    | some fault =>
      simp only [hp, Except.error.injEq] at h
      exact h ▸ .policy hp
  · rintro ⟨hp⟩
    rw [hp]

theorem removePolicy_eq_error_iff :
    (c.removePolicy id).1 = .error f ↔ c.Offends now (.removePolicy id) f := by
  unfold removePolicy
  constructor
  · intro h
    cases hp : c.policies.find? id with
    | some p => simp [hp] at h
    | none =>
      simp only [hp, Except.error.injEq] at h
      exact h ▸ .missingPolicy hp
  · rintro ⟨⟩
    rename_i hp
    rw [hp]

theorem addRole_eq_error_iff :
    (c.addRole r now).1 = .error f ↔ c.Offends now (.addRole r) f := by
  have hadd : (c.addRole r now).1 = .error f ↔ c.roles.add r now = .error f := by
    unfold addRole
    cases c.roles.add r now <;> simp
  rw [hadd, Roles.add_eq_error_iff]
  constructor
  · rintro ⟨fault, hr, rfl⟩
    exact .role hr
  · rintro ⟨⟩
    rename_i fault hr
    exact ⟨fault, hr, rfl⟩

theorem setActive_eq_error_iff :
    (c.setActive id active now).1 = .error f ↔ c.Offends now (.setActive id active) f := by
  unfold setActive
  constructor
  · intro h
    cases hr : c.roles.find? id with
    | some r => simp [hr] at h
    | none =>
      simp only [hr, Except.error.injEq] at h
      exact h ▸ .missingRole hr
  · rintro ⟨⟩
    rename_i hr
    rw [hr]

/-- The fault of a list of policies is that of the first faulty one. -/
theorem policyFault?_eq_some_iff {policies : List Policy} {fault : Policy.Fault} :
    policyFault? policies = some fault ↔ ∃ before p after, policies = before ++ p :: after ∧
      p.fault? = some fault ∧ ∀ q ∈ before, q.fault? = none :=
  List.findSome?_eq_some_iff

theorem policyFault?_eq_none_iff {policies : List Policy} :
    policyFault? policies = none ↔ ∀ p ∈ policies, p.fault? = none :=
  List.findSome?_eq_none_iff

theorem apply_eq_error_iff : (c.apply b now).1 = .error f ↔ c.Offends now (.apply b) f := by
  have happly : (c.apply b now).1 = .error f ↔
      (∃ fault, policyFault? b.policies = some fault ∧ f = .invalidInput fault.message) ∨
        policyFault? b.policies = none ∧ c.roles.addAll now b.roles = .error f := by
    unfold apply
    cases policyFault? b.policies with
    | some fault => simp [eq_comm]
    | none => cases c.roles.addAll now b.roles <;> simp
  rw [happly, policyFault?_eq_none_iff, Roles.addAll_eq_error_iff]
  simp only [policyFault?_eq_some_iff]
  constructor
  · rintro (⟨fault, ⟨before, p, after, hsplit, hp, hbefore⟩, rfl⟩ |
      ⟨hpolicies, before, r, after, staged, fault, hsplit, hbefore, hr, rfl⟩)
    · exact .batchPolicy hsplit hbefore hp
    · exact .batchRole hpolicies hsplit hbefore hr
  · rintro (_ | _ | _ | _ | ⟨hsplit, hbefore, hp⟩ | ⟨hpolicies, hsplit, hbefore, hr⟩)
    · exact .inl ⟨_, ⟨_, _, _, hsplit, hp, hbefore⟩, rfl⟩
    · exact .inr ⟨hpolicies, _, _, _, _, _, hsplit, hbefore, hr, rfl⟩

/-! ### What a refused change leaves -/

theorem refusal?_answer_iff {a : AccessCall} :
    (c.answer now a).1.refusal? = some f ↔ c.Offends now a f := by
  have hnone : ∀ {a : AccessCall}, (∀ f, ¬ c.Offends now a f) → (c.answer now a).1.refusal? = none →
      ((c.answer now a).1.refusal? = some f ↔ c.Offends now a f) := by
    intro a hfree hrefusal
    simp [hrefusal, hfree]
  cases a with
  | addPolicy p =>
    rw [← addPolicy_eq_error_iff, answer, Prod.map_fst]
    cases (c.addPolicy p now).1 <;> simp [AccessAnswer.refusal?]
  | removePolicy id =>
    rw [← removePolicy_eq_error_iff, answer, Prod.map_fst]
    cases (c.removePolicy id).1 <;> simp [AccessAnswer.refusal?]
  | addRole r =>
    rw [← addRole_eq_error_iff, answer, Prod.map_fst]
    cases (c.addRole r now).1 <;> simp [AccessAnswer.refusal?]
  | setActive id active =>
    rw [← setActive_eq_error_iff, answer, Prod.map_fst]
    cases (c.setActive id active now).1 <;> simp [AccessAnswer.refusal?]
  | apply b =>
    rw [← apply_eq_error_iff, answer, Prod.map_fst]
    cases (c.apply b now).1 <;> simp [AccessAnswer.refusal?]
  | addPermission p => exact hnone (fun _ => nofun) rfl
  | clearDecisions => exact hnone (fun _ => nofun) rfl
  | check q => exact hnone (fun _ => nofun) rfl
  | checkBefore q deadline => exact hnone (fun _ => nofun) rfl
  | tryCheck q => exact hnone (fun _ => nofun) rfl

theorem answer_of_offends {a : AccessCall} (h : c.Offends now a f) : (c.answer now a).2 = c := by
  cases h with
  | policy hp => simp only [answer, addPolicy, hp, Prod.map_snd, id_eq]
  | missingPolicy hp => simp only [answer, removePolicy, hp, Prod.map_snd, id_eq]
  | role hr =>
    have hadd : c.roles.add _ now = _ := Roles.add_eq_error_iff.mpr ⟨_, hr, rfl⟩
    simp only [answer, addRole, hadd, Prod.map_snd, id_eq]
  | missingRole hr => simp only [answer, setActive, hr, Prod.map_snd, id_eq]
  | batchPolicy hsplit hbefore hp =>
    have hfault := policyFault?_eq_some_iff.mpr ⟨_, _, _, hsplit, hp, hbefore⟩
    simp only [answer, apply, hfault, Prod.map_snd, id_eq]
  | batchRole hpolicies hsplit hbefore hr =>
    have hfault := policyFault?_eq_none_iff.mpr hpolicies
    have hadd := Roles.addAll_eq_error_iff.mpr ⟨_, _, _, _, _, hsplit, hbefore, hr, rfl⟩
    simp only [answer, apply, hfault, hadd, Prod.map_snd, id_eq]

/-- Without its refused changes, a history is answered the same and leads to the same state. -/
theorem run_accepted (c : AccessCore) (calls : List (AccessCall × Time)) :
    c.run (c.accepted calls) =
      ((c.run calls).1.filter fun a => a.refusal?.isNone, (c.run calls).2) := by
  induction calls generalizing c with
  | nil => rfl
  | cons call rest ih =>
    obtain ⟨a, now⟩ := call
    simp only [accepted, run]
    cases hrefusal : (c.answer now a).1.refusal? with
    | none => simp [run, hrefusal, ih]
    | some f =>
      have hsame : (c.answer now a).2 = c := answer_of_offends (refusal?_answer_iff.mp hrefusal)
      rw [hsame]
      simp [hrefusal, ih]

/-- Changes happen as a whole or not at all. -/
structure AllOrNothing (c : AccessCore) : Prop where
  refused_iff : ∀ now a f, (c.answer now a).1.refusal? = some f ↔ c.Offends now a f
  unchanged : ∀ now a f, (c.answer now a).1.refusal? = some f → (c.answer now a).2 = c
  traceless : ∀ calls, c.run (c.accepted calls) =
    ((c.run calls).1.filter fun a => a.refusal?.isNone, (c.run calls).2)

theorem allOrNothing (c : AccessCore) : c.AllOrNothing where
  refused_iff _ _ _ := refusal?_answer_iff
  unchanged _ _ _ h := answer_of_offends (refusal?_answer_iff.mp h)
  traceless calls := c.run_accepted calls

/-- The last role of a batch would close a cycle with the one that the batch has brought first. -/
example :
    let lead (id parent : String) : Role := { Role.new id 50 0 with parents := [parent] }
    let c := initial .standard 0
    c.apply ⟨[], [lead "first" "user", lead "second" "first", lead "first" "second"], []⟩ 1 =
      (.error (.invalidInput (Roles.Fault.cycle "first").message), c) := by
  intro lead c
  unfold c lead
  cbv

end AccessCore

end TagAtlas
