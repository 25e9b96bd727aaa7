import TagAtlas.Proofs.AccessDecisionRule
import TagAtlas.Proofs.AnnotationLoading

/-!
# Annotations decide access

When access control has loaded what the annotations of a survey give, and nothing else, the notes
themselves say who may do what. A note stands unless a later one comes from the same place; a
request is allowed just when a note that stands grants it. The roles that a request stands for are
the ones that it names and, with a hierarchy, what follows them in one chain.
-/

namespace TagAtlas

open Relation

namespace Role

def chain : List String := ["admin", "user", "authenticated", "guest"]

def ancestors (id : String) : List String := (chain.dropWhile (· ≠ id)).tail

variable {id a b : String}

theorem ancestors_of_not_mem (h : id ∉ chain) : ancestors id = [] := by
  have hdrop : chain.dropWhile (· ≠ id) = [] := by
    rw [List.dropWhile_eq_nil_iff]
    intro x hx
    simpa using ne_of_mem_of_not_mem hx h
  rw [ancestors, hdrop]
  rfl

/-- The parents in the table are the first ancestors. -/
theorem parents_standard (id : String) : (standard id).parents = (ancestors id).take 1 := by
  refine standard_cases (P := fun id r => r.parents = (ancestors id).take 1) (by decide) ?_ id
  intro id hid
  have hsame : ∀ x ∈ chain, x ∈ Batch.builtinIds := by decide
  rw [ancestors_of_not_mem fun hchain => hid (hsame id hchain)]
  rfl

theorem mem_chain_of_mem_ancestors (h : b ∈ ancestors a) : a ∈ chain := by
  by_contra hnot
  simp [ancestors_of_not_mem hnot] at h

/-- Steps from role to parent lead to the ancestors and to nothing else. -/
theorem reaches_iff : ReflTransGen (fun a b => b ∈ (standard a).parents) a b ↔
    b = a ∨ b ∈ ancestors a := by
  simp only [parents_standard]
  constructor
  · intro h
    induction h with
    | refl => exact .inl rfl
    | @tail x y _ hstep ih =>
      have hy := (List.take_sublist _ _).subset hstep
      rcases ih with rfl | hx
      · exact .inr hy
      · have htrans : ∀ a ∈ chain, ∀ x ∈ ancestors a, ∀ y ∈ ancestors x, y ∈ ancestors a := by
          decide
        exact .inr (htrans a (mem_chain_of_mem_ancestors hx) x hx y hy)
  · have hnext : ∀ a ∈ chain, ∀ b ∈ ancestors a, b ∈ (ancestors a).take 1 ∨
        ∃ x ∈ (ancestors a).take 1, b ∈ ancestors x := by decide
    rintro (rfl | hb)
    · exact .refl
    -- the next role of the chain is nearer, and has a lower level
    · induction hlevel : (standard a).level using Nat.strong_induction_on generalizing a with
      | _ n ih =>
        rcases hnext a (mem_chain_of_mem_ancestors hb) b hb with hstep | ⟨x, hstep, hx⟩
        · exact .single hstep
        · have hlt := (level_lt_of_parent x (parents_standard a ▸ hstep)).1
          exact .head hstep (ih _ (hlevel ▸ hlt) hx rfl)

end Role

/-- The request names the role, or with a hierarchy one that inherits from it. -/
def Request.Holds (settings : AccessSettings) (q : Request) (id : String) : Prop :=
  id ∈ q.roles ∨ settings.hierarchical = true ∧ ∃ d ∈ q.roles, id ∈ Role.ancestors d

namespace SecurityNote

/-- What tells apart where notes come from and what they are about. -/
def place (n : SecurityNote) : String × String × Option String × Nat :=
  (n.moduleName, n.policyResource, n.file, n.line)

/-- The note grants the request, given the stored roles. -/
structure Grants (settings : AccessSettings) (roles : Roles) (n : SecurityNote) (q : Request) :
    Prop where
  resource : (∃ lead rest, n.policyResource = lead ++ "*" ∧ q.resource = lead ++ rest) ∨
    n.policyResource = q.resource
  action : "*" ∈ n.coveredActions ∨ q.action ∈ n.coveredActions
  role : ∃ id ∈ n.neededRoles, q.Holds settings id
  permissions : ∀ x ∈ n.permissions, ∃ id r, q.Holds settings id ∧ roles.find? id = some r ∧
    ("*" ∈ r.permissions ∨ x ∈ r.permissions)
  conditions : settings.contextual = true → ∀ key value,
    n.conditions.find? key = some value → q.context.find? key = some value

theorem policyId_eq_of_place_eq {n n' : SecurityNote} (h : n.place = n'.place) :
    n.policyId = n'.policyId := by
  obtain ⟨hmodule, hrest⟩ := Prod.mk.inj h
  obtain ⟨hresource, hrest⟩ := Prod.mk.inj hrest
  obtain ⟨hfile, hline⟩ := Prod.mk.inj hrest
  rw [policyId, policyId, preimage, preimage, hmodule, hresource, hfile, hline]

end SecurityNote

namespace AccessCore

variable {settings : AccessSettings} {notes : List SecurityNote} {now : Time} {c d : AccessCore}
  {q : Request}

namespace Loaded

theorem of_sameStores (h : Loaded settings notes now c) (hsame : SameStores c d) :
    Loaded settings notes now d where
  settings := hsame.settings.trans h.settings
  policies := hsame.policies ▸ h.policies
  roles := hsame.roles ▸ h.roles

theorem standsFor_iff (h : Loaded settings notes now c) {id : String} :
    c.StandsFor q id ↔ q.Holds settings id := by
  have hactive : ∀ id, c.roles.Active id := by
    intro id r hr
    have hrole := h.find?_roles id
    rw [hr, Option.map_some] at hrole
    split at hrole
    · have hsame : r.untimed = Role.standard id := Option.some.inj hrole
      exact (congrArg Role.active hsame).trans (Role.standard_active id)
    · cases hrole
  have hclimbs : c.roles.Climbs = fun a b => b ∈ (Role.standard a).parents := by
    funext a b
    have hparent : c.roles.Parent a b ↔ b ∈ (Role.standard a).parents := by
      rw [← Roles.parent_untimed_iff, h.roles, Roles.parent_standard_iff, and_iff_right_iff_imp]
      intro hb
      rw [Role.parents_standard] at hb
      have hchain := Role.mem_chain_of_mem_ancestors ((List.take_sublist _ _).subset hb)
      have hbuiltin : ∀ x ∈ Role.chain, x ∈ Batch.builtinIds := by decide
      exact List.mem_append_left _ (hbuiltin a hchain)
    simp [Roles.Climbs, hactive, hparent]
  unfold StandsFor Roles.Stands Request.Holds
  rw [h.settings, hclimbs]
  simp only [hactive, true_and, and_true, Role.reaches_iff]
  cases settings.hierarchical with
  | true => simp [and_or_left, exists_or]
  | false => simp

/-- What a note grants is what its policy allows. -/
theorem grants_iff (h : Loaded settings notes now c) {n : SecurityNote} {p : Policy}
    (hgives : n.Gives p) : p.Covers q ∧ c.Satisfied q p ↔ n.Grants settings c.roles q := by
  have hactions : p.actions ≠ [] := hgives.actions ▸ n.coveredActions_ne_nil
  have hcovers : p.Covers q ↔ ((∃ lead rest, n.policyResource = lead ++ "*" ∧
      q.resource = lead ++ rest) ∨ n.policyResource = q.resource) ∧
        ("*" ∈ n.coveredActions ∨ q.action ∈ n.coveredActions) := by
    unfold Policy.Covers
    rw [← hgives.resource, ← hgives.actions]
    simp only [hactions, false_or]
  constructor
  · rintro ⟨hcov, hrole, hpermissions, hconditions⟩
    obtain ⟨hresource, haction⟩ := hcovers.mp hcov
    simp only [h.standsFor_iff, hgives.roles] at hrole
    simp only [h.standsFor_iff, hgives.permissions] at hpermissions
    rw [h.settings, hgives.conditions] at hconditions
    exact ⟨hresource, haction, hrole, hpermissions, hconditions⟩
  · rintro ⟨hresource, haction, hrole, hpermissions, hconditions⟩
    refine ⟨hcovers.mpr ⟨hresource, haction⟩, ?_, ?_, ?_⟩
    · simpa only [h.standsFor_iff, hgives.roles] using hrole
    · simpa only [h.standsFor_iff, hgives.permissions] using hpermissions
    · rwa [h.settings, hgives.conditions]

/-- Some stored policy grants a request just when a note does that stands. -/
theorem exists_grants_iff (h : Loaded settings notes now c) :
    (∃ id, c.Grants q id) ↔ ∃ before n after, notes = before ++ n :: after ∧ n.Counts ∧
      (∀ n' ∈ after, n'.Counts → n'.policyId ≠ n.policyId) ∧ n.Grants settings c.roles q := by
  have hstored : (∃ id, c.Grants q id) ↔
      ∃ p ∈ (Batch.ofNotes notes now).policies, p.Covers q ∧ c.Satisfied q p := by
    simp only [Grants, h.policies]
    constructor
    · rintro ⟨_, p, ⟨hp, rfl⟩, hallows⟩
      exact ⟨p, hp, hallows⟩
    · rintro ⟨p, hp, hallows⟩
      exact ⟨p.id, p, ⟨hp, rfl⟩, hallows⟩
  rw [hstored]
  constructor
  · rintro ⟨p, hp, hallows⟩
    obtain ⟨before, n, after, heq, hpolicy, hafter⟩ := Batch.mem_policies_iff.mp hp
    have hgives := SecurityNote.gives_of_policy? hpolicy
    exact ⟨before, n, after, heq, hgives.counts, hafter, (h.grants_iff hgives).mp hallows⟩
  · rintro ⟨before, n, after, heq, hcounts, hafter, hgrants⟩
    obtain ⟨p, hpolicy⟩ := SecurityNote.exists_policy? hcounts now
    refine ⟨p, Batch.mem_policies_iff.mpr ⟨before, n, after, heq, hpolicy, hafter⟩, ?_⟩
    exact (h.grants_iff (SecurityNote.gives_of_policy? hpolicy)).mpr hgrants

end Loaded

/-- With denial by default, a request is allowed just when a stored policy grants it. -/
theorem Consistent.check_allows_iff (h : c.Consistent) (hstrict : c.settings.strict = false)
    (hdeny : c.settings.defaultDeny = true) (q : Request) (now : Time) :
    (c.check q now).1.reason.allows = true ↔ ∃ id, c.Grants q id := by
  have hrefuses : c.refuses q = false := by rw [refuses, hstrict, Bool.false_and]
  rw [h.check_allows_iff_permits, Permits, hrefuses, hdeny]
  simp

/-- The state after some requests have been checked, each at its time. -/
def afterChecks (c : AccessCore) (requests : List (Request × Time)) : AccessCore :=
  (c.run (requests.map fun e => (.check e.1, e.2))).2

theorem sameStores_afterChecks (c : AccessCore) (requests : List (Request × Time)) :
    SameStores c (c.afterChecks requests) := by
  induction requests generalizing c with
  | nil => exact .refl c
  | cons e rest ih => exact (sameStores_checkBefore c e.1 none e.2).trans (ih _)

end AccessCore

/-- Access control that has loaded the annotations of a survey, and has checked requests since,
allows a request just when a note that stands grants it. -/
theorem Survey.check_allows_iff_granted {s : Survey} (hvalues : s.ValuesShown)
    {settings : AccessSettings} (hdeny : settings.defaultDeny = true)
    (hstrict : settings.strict = false)
    (hids : ∀ n ∈ s.securityNotes, ∀ n' ∈ s.securityNotes, n.Counts → n'.Counts →
      n.policyId = n'.policyId → n.place = n'.place)
    {start : Time} {c : AccessCore} (hnew : AccessCore.new settings start = .ok c)
    (now now' : Time) :
    ∃ d, c.apply (Batch.ofSurvey s now) now' = (.ok (), d) ∧
      ∀ earlier q t, ((d.afterChecks earlier).check q t).1.reason.allows = true ↔
        ∃ before n after, s.securityNotes = before ++ n :: after ∧ n.Counts ∧
          (∀ n' ∈ after, n'.Counts → n'.place ≠ n.place) ∧ n.Grants settings d.roles q := by
  obtain ⟨d, happly, hloaded⟩ :=
    AccessCore.exists_apply_ofNotes hvalues.isShown hnew now now'
  have hreachable : d.Reachable := by
    have hcall := AccessCore.Reachable.call (.apply (Batch.ofSurvey s now)) now' (.new hnew)
    rwa [AccessCore.answer, Batch.ofSurvey, happly] at hcall
  refine ⟨d, happly, fun earlier q t => ?_⟩
  have hsame := d.sameStores_afterChecks earlier
  have hlater := hloaded.of_sameStores hsame
  have hconsistent : (d.afterChecks earlier).Consistent := (hreachable.run _).consistent
  rw [hconsistent.check_allows_iff (hlater.settings ▸ hstrict) (hlater.settings ▸ hdeny),
    hlater.exists_grants_iff, hsame.roles]
  refine exists_congr fun before => exists_congr fun n => exists_congr fun after =>
    and_congr_right fun heq => and_congr_right fun hcounts => and_congr_left fun _ => ?_
  refine forall_congr' fun n' => imp_congr_right fun hn' => imp_congr_right fun hcounts' => ?_
  refine not_congr ⟨fun hid => ?_, SecurityNote.policyId_eq_of_place_eq⟩
  exact hids n' (heq ▸ by simp [hn']) n (heq ▸ by simp) hcounts' hcounts hid

/-- The second of two notes from one place stands, and an administrator is allowed what it grants
to users. -/
theorem Survey.check_allows_iff_granted_replaced_note :
    let tag (value : String) (attributes : List (String × String)) (line : Nat) : Tag :=
      ⟨.security, some value, Dict.ofList attributes, line, "", none, some "bill.go"⟩
    let s : Survey := { Survey.new "proj" (Stamp.ofNanoseconds 0) with
      tags := [tag "invoice*" [("role", "clerk"), ("permission", "pay")] 4,
        tag "invoice*" [("roles", "clerk, user")] 4,
        tag "ledger" [("permission", "write:own"), ("condition", "region=eu")] 9]
      files := [⟨"bill.go", "billing", none, [], [], [], 20, 400⟩] }
    let q : Request := ⟨0, "ann", "invoice-7", "read", ["admin"], .empty⟩
    s.ValuesShown ∧
      (∀ n ∈ s.securityNotes, ∀ n' ∈ s.securityNotes, n.Counts → n'.Counts →
        n.policyId = n'.policyId → n.place = n'.place) ∧
      AccessCore.new .standard 0 = .ok (.initial .standard 0) ∧
      ∃ d, (AccessCore.initial .standard 0).apply (Batch.ofSurvey s 1) 2 = (.ok (), d) ∧
        (d.check q 3).1.reason.allows = true := by
  intro tag s q
  let clerk (roles permissions : List String) : SecurityNote :=
    ⟨"billing", some "bill.go", 4, "security", some "invoice*", roles, permissions, [], .empty,
      none, none⟩
  let ledger : SecurityNote :=
    ⟨"billing", some "bill.go", 9, "security", some "ledger", [], ["write:own"], [],
      Dict.ofList [("region", "eu")], none, none⟩
  have hnotes : s.securityNotes =
      [clerk ["clerk"] ["pay"]] ++ clerk ["clerk", "user"] [] :: [ledger] := by decide +kernel
  have hvalues : s.ValuesShown := by unfold Survey.ValuesShown; decide +kernel
  have hplaces : ∀ n ∈ s.securityNotes, ∀ n' ∈ s.securityNotes,
      n.place = n'.place ∨ n.policyId ≠ n'.policyId := by
    rw [hnotes]
    decide +kernel
  have hids : ∀ n ∈ s.securityNotes, ∀ n' ∈ s.securityNotes, n.Counts → n'.Counts →
      n.policyId = n'.policyId → n.place = n'.place := by
    intro n hn n' hn' _ _ hid
    exact (hplaces n hn n' hn').resolve_right (not_not_intro hid)
  have hnew : AccessCore.new .standard 0 = .ok (.initial .standard 0) :=
    AccessCore.new_eq_ok_iff.mpr ⟨rfl, rfl⟩
  obtain ⟨d, happly, hallows⟩ := Survey.check_allows_iff_granted hvalues rfl rfl hids hnew 1 2
  refine ⟨hvalues, hids, hnew, d, happly, (hallows [] q 3).mpr ?_⟩
  refine ⟨_, _, _, hnotes, .inl (by decide), by decide +kernel, ?_⟩
  refine ⟨.inl ⟨"invoice", "-7", by decide, by decide⟩, by decide, ?_, by simp [clerk], ?_⟩
  · exact ⟨"user", by decide, .inr ⟨rfl, "admin", by decide, by decide⟩⟩
  · intro _ key value h
    cases h

end TagAtlas
