import Mathlib
import TagAtlas.Proofs.AccessConsistency
import TagAtlas.Proofs.TextParts

/-!
# The rule that decisions follow

A policy covers a request by its pattern and its actions. A request satisfies a policy when it
stands for one of its roles, when the roles that it stands for grant every permission, and when its
context meets the conditions, if these count. The satisfied policy with the smallest id allows the
request; every decision, kept or fresh, is the one that this rule gives.
-/

namespace TagAtlas

namespace Policy

/-- The resource begins with what precedes a closing star of the pattern, or is the pattern; and
the action is listed, or a star is, or no action is. -/
def Covers (p : Policy) (q : Request) : Prop :=
  ((∃ lead rest, p.resource = lead ++ "*" ∧ q.resource = lead ++ rest) ∨
      p.resource = q.resource) ∧
    (p.actions = [] ∨ "*" ∈ p.actions ∨ q.action ∈ p.actions)

theorem patternMatches_iff {pattern resource : String} :
    patternMatches pattern resource = true ↔
      (∃ lead rest, pattern = lead ++ "*" ∧ resource = lead ++ rest) ∨ pattern = resource := by
  have hstar : ∀ lead : String, pattern = lead ++ "*" ↔ pattern.toList = lead.toList ++ ['*'] := by
    intro lead
    rw [← String.toList_inj, String.toList_append]
    rfl
  unfold patternMatches
  split
  next h =>
    subst h
    exact iff_of_true rfl (.inl ⟨"", resource, rfl, by simp⟩)
  next h =>
    cases hb : Text.before? ['*'] pattern.toList with
    | some lead =>
      have hp := Text.before?_eq_some_iff.mp hb
      dsimp only
      rw [List.isPrefixOf_iff_prefix]
      constructor
      · rintro ⟨rest, hr⟩
        refine .inl ⟨String.ofList lead, String.ofList rest, ?_, ?_⟩
        · rw [hstar, hp, String.toList_ofList]
        · rw [← String.toList_inj, ← hr]
          simp
      · rintro (⟨lead', rest, hl, rfl⟩ | rfl)
        · have : lead = lead'.toList := List.append_cancel_right (hp.symm.trans ((hstar _).mp hl))
          exact ⟨rest.toList, by simp [this]⟩
        · exact ⟨['*'], hp.symm⟩
    | none =>
      have hnot : ∀ lead, pattern ≠ lead ++ "*" := by
        intro lead hl
        rw [Text.before?_eq_some_iff.mpr ((hstar lead).mp hl)] at hb
        cases hb
      simp [hnot]

theorem covers_iff {p : Policy} {q : Request} :
    (p.coversResource q.resource = true ∧ p.coversAction q.action = true) ↔ p.Covers q := by
  unfold coversResource coversAction Covers
  rw [patternMatches_iff]
  cases p.actions with
  | nil => simp
  | cons a rest =>
    refine and_congr_right fun _ => ?_
    simp only [List.isEmpty_cons, Bool.false_or, List.any_eq_true, Bool.or_eq_true,
      decide_eq_true_eq, reduceCtorEq, false_or]
    constructor
    · rintro ⟨x, hx, rfl | rfl⟩
      · exact .inl hx
      · exact .inr hx
    · rintro (hx | hx)
      · exact ⟨_, hx, .inl rfl⟩
      · exact ⟨_, hx, .inr rfl⟩

end Policy

theorem Role.grants_iff {r : Role} {x : String} :
    r.grants x = true ↔ "*" ∈ r.permissions ∨ x ∈ r.permissions := by
  simp only [Role.grants, List.any_eq_true, Bool.or_eq_true, decide_eq_true_eq]
  constructor
  · rintro ⟨y, hy, rfl | rfl⟩
    · exact .inl hy
    · exact .inr hy
  · rintro (hy | hy)
    · exact ⟨_, hy, .inl rfl⟩
    · exact ⟨_, hy, .inr rfl⟩

namespace AccessCore

def StandsFor (c : AccessCore) (q : Request) (id : String) : Prop :=
  Roles.Stands c.roles c.settings.hierarchical q.roles id

structure Satisfied (c : AccessCore) (q : Request) (p : Policy) : Prop where
  role : ∃ id ∈ p.roles, c.StandsFor q id
  permissions : ∀ x ∈ p.permissions, ∃ id r, c.StandsFor q id ∧ c.roles.find? id = some r ∧
    ("*" ∈ r.permissions ∨ x ∈ r.permissions)
  conditions : c.settings.contextual = true → ∀ key value,
    p.conditions.find? key = some value → q.context.find? key = some value

def Grants (c : AccessCore) (q : Request) (id : String) : Prop :=
  ∃ p, c.policies.find? id = some p ∧ p.Covers q ∧ c.Satisfied q p

/-- What the stores say about a request. -/
structure Rule (c : AccessCore) (q : Request) (allowed : Bool) (reason : String)
    (applied : List String) : Prop where
  increasing : applied.Pairwise (· < ·)
  mem_applied : ∀ id, id ∈ applied ↔ ∃ p, c.policies.find? id = some p ∧ p.Covers q
  outcome : (∃ id, c.Grants q id ∧ (∀ id', c.Grants q id' → id ≤ id') ∧
      allowed = true ∧ reason = "allowed by policy " ++ id) ∨
    (¬ ∃ id, c.Grants q id) ∧
      (applied ≠ [] ∧ allowed = false ∧
          reason = "user lacks required roles or conditions not met" ∨
        applied = [] ∧ c.settings.defaultDeny = true ∧ allowed = false ∧
          reason = "no applicable security policies found" ∨
        applied = [] ∧ c.settings.defaultDeny = false ∧ allowed = true ∧
          reason = "no applicable security policies found (default allow)")

variable {c : AccessCore} {q : Request}

theorem storedRoles_grant_iff {ids : List String} (hids : ∀ id, id ∈ ids ↔ c.StandsFor q id)
    (x : String) : (Verdict.storedRoles c.roles ids).any (·.grants x) = true ↔
      ∃ id r, c.StandsFor q id ∧ c.roles.find? id = some r ∧
        ("*" ∈ r.permissions ∨ x ∈ r.permissions) := by
  simp only [Verdict.storedRoles, List.any_filterMap, List.any_eq_true]
  constructor
  · rintro ⟨id, hid, hr⟩
    cases hf : c.roles.find? id with
    | none => simp [hf] at hr
    | some r => exact ⟨id, r, (hids id).mp hid, hf, Role.grants_iff.mp (by simpa [hf] using hr)⟩
  · rintro ⟨id, r, hid, hf, hr⟩
    exact ⟨id, (hids id).mpr hid, by simpa [hf] using Role.grants_iff.mpr hr⟩

theorem satisfies_iff {ids : List String} {p : Policy}
    (h : Roles.effective c.roles c.settings.hierarchical q.roles = .ok ids) :
    Verdict.satisfies c.settings c.roles ids q p = true ↔ c.Satisfied q p := by
  have hids : ∀ id, id ∈ ids ↔ c.StandsFor q id := fun id => Roles.mem_effective_iff h
  have hroles : p.roles.any ids.contains = true ↔ ∃ id ∈ p.roles, c.StandsFor q id := by
    simp [← hids]
  have hconditions : (p.conditions.entries.all fun e => q.context.find? e.1 = some e.2) = true ↔
      ∀ key value, p.conditions.find? key = some value → q.context.find? key = some value := by
    simp only [List.all_eq_true, decide_eq_true_eq, Prod.forall, Dict.mem_entries_iff]
  unfold Verdict.satisfies
  rw [Bool.and_eq_true, Bool.and_eq_true, hroles, List.all_eq_true, Bool.or_eq_true, hconditions]
  simp only [storedRoles_grant_iff hids]
  constructor
  · rintro ⟨⟨hr, hp⟩, hc⟩
    exact ⟨hr, hp, fun hctx => hc.resolve_left (by simp [hctx])⟩
  · rintro ⟨hr, hp, hc⟩
    refine ⟨⟨hr, hp⟩, ?_⟩
    cases hctx : c.settings.contextual with
    | true => exact .inr (hc hctx)
    | false => exact .inl rfl

namespace Consistent

theorem ids_values (h : c.Consistent) : c.policies.values.map Policy.id = c.policies.keys := by
  unfold Dict.values Dict.keys
  rw [List.map_map]
  refine List.map_congr_left fun e he => ?_
  exact h.policyIds e.1 e.2 (Dict.mem_entries_iff.mp he)

theorem ids_matching_pairwise (h : c.Consistent) (q : Request) :
    ((Verdict.matching c.policies q).map Policy.id).Pairwise (· < ·) := by
  refine List.Pairwise.sublist (List.filter_sublist.map Policy.id) ?_
  rw [h.ids_values]
  exact c.policies.ordered

theorem mem_matching_iff (h : c.Consistent) {p : Policy} :
    p ∈ Verdict.matching c.policies q ↔ c.policies.find? p.id = some p ∧ p.Covers q := by
  rw [Verdict.mem_matching_iff, Policy.covers_iff]
  refine and_congr_left fun _ => ⟨?_, fun hp => ⟨_, hp⟩⟩
  rintro ⟨id, hp⟩
  rwa [h.policyIds id p hp]

theorem mem_ids_matching_iff (h : c.Consistent) {id : String} :
    id ∈ (Verdict.matching c.policies q).map Policy.id ↔
      ∃ p, c.policies.find? id = some p ∧ p.Covers q := by
  rw [List.mem_map]
  constructor
  · rintro ⟨p, hm, rfl⟩
    exact ⟨p, h.mem_matching_iff.mp hm⟩
  · rintro ⟨p, hp, hcov⟩
    have hid := h.policyIds id p hp
    exact ⟨p, h.mem_matching_iff.mpr ⟨hid.symm ▸ hp, hcov⟩, hid⟩

theorem grants_iff (h : c.Consistent) {ids : List String}
    (hids : Roles.effective c.roles c.settings.hierarchical q.roles = .ok ids) {id : String} :
    c.Grants q id ↔ ∃ p ∈ Verdict.matching c.policies q, p.id = id ∧
      Verdict.satisfies c.settings c.roles ids q p = true := by
  constructor
  · rintro ⟨p, hp, hcov, hs⟩
    have hid := h.policyIds id p hp
    exact ⟨p, h.mem_matching_iff.mpr ⟨hid.symm ▸ hp, hcov⟩, hid, (satisfies_iff hids).mpr hs⟩
  · rintro ⟨p, hm, rfl, hs⟩
    obtain ⟨hp, hcov⟩ := h.mem_matching_iff.mp hm
    exact ⟨p, hp, hcov, (satisfies_iff hids).mp hs⟩

/-- Matching policies come in the order of their ids, so the first that passes a test has the
smallest id. -/
theorem id_le_of_find? (h : c.Consistent) {test : Policy → Bool} {p : Policy}
    (hfind : (Verdict.matching c.policies q).find? test = some p) :
    ∀ p' ∈ Verdict.matching c.policies q, test p' = true → p.id ≤ p'.id := by
  obtain ⟨_, before, after, heq, hbefore⟩ := List.find?_eq_some_iff_append.mp hfind
  have hpair := h.ids_matching_pairwise q
  rw [heq, List.map_append, List.map_cons] at hpair
  obtain ⟨_, hafter, _⟩ := List.pairwise_append.mp hpair
  have hlt := (List.pairwise_cons.mp hafter).1
  intro p' hm htest
  rw [heq] at hm
  rcases List.mem_append.mp hm with hb | ha
  · exact absurd htest (by simpa using hbefore p' hb)
  · rcases List.mem_cons.mp ha with rfl | ha
    · exact le_refl _
    · exact le_of_lt (hlt _ (List.mem_map_of_mem ha))

theorem rule_of_decides (h : c.Consistent) {v : Verdict} (hv : c.Decides q v) :
    c.Rule q v.reason.allows v.reason.text v.applied := by
  obtain ⟨ids, hids, rfl⟩ := Verdict.decide_eq_ok_iff.mp hv
  refine ⟨h.ids_matching_pairwise q, fun id => h.mem_ids_matching_iff, ?_⟩
  cases hfind : (Verdict.matching c.policies q).find?
      (Verdict.satisfies c.settings c.roles ids q) with
  | some p =>
    have hreason : (Verdict.ofPolicies c.settings c.policies c.roles ids q).reason =
        .allowedBy p.id := by
      simp [Verdict.ofPolicies, hfind]
    have hm : p ∈ Verdict.matching c.policies q := List.mem_of_find?_eq_some hfind
    have hs := List.find?_some hfind
    rw [hreason]
    refine .inl ⟨p.id, (h.grants_iff hids).mpr ⟨p, hm, rfl, hs⟩, ?_, rfl, rfl⟩
    intro id' hid'
    obtain ⟨p', hm', rfl, hs'⟩ := (h.grants_iff hids).mp hid'
    exact h.id_le_of_find? hfind p' hm' hs'
  | none =>
    have hnone := List.find?_eq_none.mp hfind
    refine .inr ⟨?_, ?_⟩
    · rintro ⟨id, hid⟩
      obtain ⟨p, hm, _, hs⟩ := (h.grants_iff hids).mp hid
      exact hnone p hm hs
    · simp only [Verdict.ofPolicies, hfind]
      cases hmatch : Verdict.matching c.policies q with
      | cons p rest => exact .inl ⟨by simp, rfl, rfl⟩
      | nil =>
        cases hdeny : c.settings.defaultDeny with
        | true => exact .inr (.inl ⟨rfl, rfl, rfl, rfl⟩)
        | false => exact .inr (.inr ⟨rfl, rfl, rfl, rfl⟩)

end Consistent

/-- The stores allow the request: some policy grants it, or none covers it and that will do. -/
def Permits (c : AccessCore) (q : Request) : Prop :=
  c.refuses q = false ∧ ((∃ id, c.Grants q id) ∨
    c.settings.defaultDeny = false ∧ ∀ id p, c.policies.find? id = some p → ¬ p.Covers q)

theorem Consistent.check_allows_iff_permits (h : c.Consistent) (q : Request) (now : Time) :
    (c.check q now).1.reason.allows = true ↔ c.Permits q := by
  have hruling := h.check_eq q now
  unfold ruling at hruling
  unfold Permits
  cases hrefuses : c.refuses q with
  | true =>
    rw [if_pos hrefuses, Except.ok.injEq, Verdict.mk.injEq] at hruling
    simp [← hruling.1, Reason.allows]
  | false =>
    rw [if_neg (by simp [hrefuses])] at hruling
    have hrule := h.rule_of_decides hruling
    have hcovered := hrule.mem_applied
    have houtcome := hrule.outcome
    dsimp only at hcovered houtcome
    rcases houtcome with ⟨id, hid, -, hallowed, -⟩ | ⟨hnone, hrest⟩
    · exact iff_of_true hallowed ⟨rfl, .inl ⟨id, hid⟩⟩
    · rcases hrest with ⟨hne, hallowed, -⟩ | ⟨-, hdeny, hallowed, -⟩ | ⟨hnil, hdeny, hallowed, -⟩
      · obtain ⟨id, hmem⟩ := List.exists_mem_of_ne_nil _ hne
        obtain ⟨p, hp, hcov⟩ := (hcovered id).mp hmem
        refine iff_of_false (by simp [hallowed]) ?_
        rintro ⟨-, hgrants | ⟨-, hfree⟩⟩
        · exact hnone hgrants
        · exact hfree id p hp hcov
      · exact iff_of_false (by simp [hallowed]) (by simp [hnone, hdeny])
      · refine iff_of_true hallowed ⟨rfl, .inr ⟨hdeny, fun id p hp hcov => ?_⟩⟩
        have hmem := (hcovered id).mpr ⟨p, hp, hcov⟩
        simp [hnil] at hmem

/-- Every check of a request that is not refused unread follows the rule over the current stores,
whether its verdict was kept or is decided afresh. -/
theorem check_follows_rule (h : c.Reachable) (q : Request)
    (hread : c.settings.strict = true → q.isWellFormed = true) (now : Time) :
    c.Rule q (c.check q now).1.reason.allows (c.check q now).1.reason.text
      (c.check q now).1.applied := by
  have hrefuses : ¬ c.refuses q = true := by
    unfold refuses
    cases hs : c.settings.strict with
    | true => simp [hread hs]
    | false => simp
  have hruling := h.consistent.check_eq q now
  rw [ruling, if_neg hrefuses] at hruling
  exact h.consistent.rule_of_decides hruling

theorem check_follows_rule_kept_verdict :
    let q : Request := ⟨0, "ann", "reports", "write", ["lead"], .empty⟩
    let c := ((initial .standard 0).run [
      (.addRole { Role.new "lead" 50 3 with parents := ["user"], permissions := ["approve"] }, 4),
      (.addPolicy ⟨"p1", "", "report*", ["write"], ["user"], ["approve"], .empty, none, none,
        none, 5, 5⟩, 5),
      (.check q, 6)]).2
    (c.check q 7).1.cacheHit = true ∧ c.Rule q true "allowed by policy p1" ["p1"] := by
  intro q c
  have hreach : c.Reachable := .run (.new (new_eq_ok_iff.mpr ⟨rfl, rfl⟩)) _
  have hhit : (c.check q 7).1.cacheHit = true := by unfold c q; cbv
  have hreason : (c.check q 7).1.reason = .allowedBy "p1" := by unfold c q; cbv
  have happlied : (c.check q 7).1.applied = ["p1"] := by unfold c q; cbv
  have hrule := check_follows_rule hreach q (fun _ => by decide +kernel) 7
  rw [hreason, happlied] at hrule
  exact ⟨hhit, hrule⟩

end AccessCore

end TagAtlas
