import Mathlib.Data.List.Induction
import TagAtlas.Access.Synthesis
import TagAtlas.Proofs.DictContents
import TagAtlas.Proofs.FirstOccurrences

/-!
# What a batch of annotations holds

Of the policies with one id the last stands. The roles are the ones that are always there, followed
by the others in the order in which notes name them first. A permission is registered just when a
note mentions it, with the modules of all such notes. So a batch is closed: all roles and
permissions that its policies need are in it, and no id is there twice.
-/

namespace TagAtlas

namespace SecurityNote

/-- A note counts when it names a role or a permission. -/
def Counts (n : SecurityNote) : Prop := n.roles ≠ [] ∨ n.permissions ≠ []

instance (n : SecurityNote) : Decidable n.Counts := inferInstanceAs (Decidable (_ ∨ _))

def neededRoles (n : SecurityNote) : List String :=
  if n.roles = [] then ["authenticated"] else n.roles

def coveredActions (n : SecurityNote) : List String :=
  if n.actions = [] then ["read"] else n.actions

theorem neededRoles_ne_nil (n : SecurityNote) : n.neededRoles ≠ [] := by
  unfold neededRoles
  split <;> simp [*]

theorem coveredActions_ne_nil (n : SecurityNote) : n.coveredActions ≠ [] := by
  unfold coveredActions
  split <;> simp [*]

structure Gives (n : SecurityNote) (p : Policy) : Prop where
  counts : n.Counts
  id : p.id = n.policyId
  resource : p.resource = n.policyResource
  actions : p.actions = n.coveredActions
  roles : p.roles = n.neededRoles
  permissions : p.permissions = n.permissions
  conditions : p.conditions = n.conditions

variable {n : SecurityNote} {now : Time} {p : Policy}

theorem gives_of_policy? (h : n.policy? now = some p) : n.Gives p := by
  unfold policy? at h
  split at h
  · cases h
  next hcounts =>
    cases h
    have hc : n.Counts := by
      simpa [Counts, imp_iff_not_or] using hcounts
    refine ⟨hc, rfl, rfl, ?_, ?_, rfl, rfl⟩
    · simp [coveredActions, defaultAction]
    · simp [neededRoles, Role.authenticatedId]

theorem exists_policy? (h : n.Counts) (now : Time) : ∃ p, n.policy? now = some p := by
  have hnot : ¬(n.roles.isEmpty && n.permissions.isEmpty) = true := by
    simpa [Counts, imp_iff_not_or] using h
  exact ⟨_, if_neg hnot⟩

end SecurityNote

namespace Batch

/-! ### Policies -/

theorem mem_putPolicy {policies : List Policy} {p q : Policy} :
    p ∈ putPolicy policies q ↔ p = q ∨ p ∈ policies ∧ p.id ≠ q.id := by
  unfold putPolicy
  split
  next h =>
    obtain ⟨old, hold, hid⟩ := List.any_eq_true.mp h
    simp only [decide_eq_true_eq] at hid
    rw [List.mem_map]
    constructor
    · rintro ⟨x, hx, rfl⟩
      by_cases hxq : x.id = q.id
      · exact .inl (if_pos hxq)
      · rw [if_neg hxq]
        exact .inr ⟨hx, hxq⟩
    · rintro (rfl | ⟨hp, hne⟩)
      · exact ⟨old, hold, if_pos hid⟩
      · exact ⟨p, hp, if_neg hne⟩
  next h =>
    have hnew : ∀ x ∈ policies, x.id ≠ q.id := by simpa using h
    rw [List.mem_append, List.mem_singleton, or_comm]
    exact or_congr_right ⟨fun hp => ⟨hp, hnew p hp⟩, And.left⟩

theorem ids_putPolicy (policies : List Policy) (q : Policy) :
    (putPolicy policies q).map Policy.id =
      if q.id ∈ policies.map Policy.id then policies.map Policy.id
      else policies.map Policy.id ++ [q.id] := by
  have hany : policies.any (·.id = q.id) = true ↔ q.id ∈ policies.map Policy.id := by simp
  unfold putPolicy
  by_cases h : q.id ∈ policies.map Policy.id
  · rw [if_pos (hany.mpr h), if_pos h, List.map_map]
    refine List.map_congr_left fun x _ => ?_
    by_cases hx : x.id = q.id <;> simp [hx]
  · rw [if_neg (mt hany.mp h), if_neg h]
    simp

/-- Of policies with one id the last stands. -/
theorem mem_foldl_putPolicy {policies : List Policy} {p : Policy} :
    p ∈ policies.foldl putPolicy [] ↔
      ∃ before after, policies = before ++ p :: after ∧ ∀ q ∈ after, q.id ≠ p.id := by
  induction policies using List.reverseRecOn with
  | nil => simp
  | append_singleton policies q ih =>
    rw [List.foldl_append, List.foldl_cons, List.foldl_nil, mem_putPolicy, ih]
    constructor
    · rintro (rfl | ⟨⟨before, after, rfl, hafter⟩, hne⟩)
      · exact ⟨policies, [], rfl, by simp⟩
      · refine ⟨before, after ++ [q], by simp, ?_⟩
        simpa [or_imp, forall_and, hne.symm] using hafter
    · rintro ⟨before, after, heq, hafter⟩
      rcases List.eq_nil_or_concat after with rfl | ⟨rest, x, rfl⟩
      · exact .inl (List.append_inj_right' heq rfl |> List.singleton_inj.mp).symm
      · rw [List.concat_eq_append, ← List.cons_append, ← List.append_assoc] at heq
        obtain ⟨hpolicies, hx⟩ := List.append_inj' heq rfl
        obtain rfl := List.singleton_inj.mp hx
        refine .inr ⟨⟨before, rest, hpolicies, fun y hy => hafter y (by simp [hy])⟩, ?_⟩
        exact (hafter q (by simp)).symm

/-! ### Roles -/

theorem ids_discoverRole (now : Time) (roles : List Role) (id : String) :
    (discoverRole now roles id).map Role.id =
      if id ∈ roles.map Role.id then roles.map Role.id else roles.map Role.id ++ [id] := by
  have hany : roles.any (·.id = id) = true ↔ id ∈ roles.map Role.id := by simp
  unfold discoverRole
  by_cases h : id ∈ roles.map Role.id
  · rw [if_pos (hany.mpr h), if_pos h]
  · rw [if_neg (mt hany.mp h), if_neg h]
    simp [Role.new]

theorem prefix_foldl_discoverRole (now : Time) (roles : List Role) (found : List String) :
    roles <+: found.foldl (discoverRole now) roles := by
  induction found using List.reverseRecOn with
  | nil => exact List.prefix_rfl
  | append_singleton found id ih =>
    rw [List.foldl_append, List.foldl_cons, List.foldl_nil]
    refine ih.trans ?_
    unfold discoverRole
    split
    · exact List.prefix_rfl
    · exact List.prefix_append _ _

def builtinIds : List String := ["guest", "authenticated", "user", "admin"]

theorem ids_builtin (now : Time) : (Role.builtin now).map Role.id = builtinIds := rfl

theorem ids_roles (notes : List SecurityNote) (now : Time) :
    (ofNotes notes now).roles.map Role.id =
      (builtinIds ++ notes.flatMap SecurityNote.roles).eraseDups := by
  have hbuiltin : ((Role.builtin now).map Role.id).Nodup := by
    rw [ids_builtin]
    decide
  have h := collected_foldl (k := id) (ids_discoverRole now) hbuiltin
    (notes.flatMap SecurityNote.roles)
  rwa [List.map_id] at h

/-! ### Permissions -/

/-- The modules that mention a permission. A note without a module counts as none. -/
def mentioning (mentions : List (String × String)) (id : String) : List String :=
  (mentions.filter fun e => e.2 = id && e.1 ≠ "").map Prod.fst

theorem mem_mentioning {mentions : List (String × String)} {id m : String} :
    m ∈ mentioning mentions id ↔ m ≠ "" ∧ (m, id) ∈ mentions := by
  simp [mentioning, and_comm]

theorem mentioning_concat (mentions : List (String × String)) (m k id : String) :
    mentioning (mentions ++ [(m, k)]) id =
      if k = id ∧ m ≠ "" then mentioning mentions id ++ [m] else mentioning mentions id := by
  by_cases h : k = id ∧ m ≠ ""
  · simp [mentioning, h]
  · have hnot : (decide (k = id) && decide (m ≠ "")) = false := by simpa using h
    simp only [mentioning, List.filter_append, List.filter_cons, List.filter_nil, hnot, if_neg h]
    simp

/-- A permission is registered when it has been mentioned, with the modules that mention it. -/
theorem find?_mentionPermission (mentions : List (String × String)) (id : String) :
    (mentions.foldl (fun found e => mentionPermission e.1 found e.2) .empty).find? id =
      if id ∈ mentions.map Prod.snd then some ⟨id, none, (mentioning mentions id).eraseDups⟩
      else none := by
  induction mentions using List.reverseRecOn generalizing id with
  | nil => simp
  | append_singleton mentions e ih =>
    obtain ⟨m, k⟩ := e
    rw [List.foldl_append, List.foldl_cons, List.foldl_nil]
    generalize mentions.foldl (fun found e => mentionPermission e.1 found e.2) .empty = found at ih
    -- what is there, or a permission that no module has mentioned
    have hold : (found.find? k).getD ⟨k, none, []⟩ =
        ⟨k, none, (mentioning mentions k).eraseDups⟩ := by
      rw [ih]
      split
      · rfl
      next hk =>
        have hempty : mentioning mentions k = [] := by
          refine List.eq_nil_iff_forall_not_mem.mpr fun x hx => hk ?_
          exact List.mem_map_of_mem (mem_mentioning.mp hx).2
        rw [hempty]
        rfl
    rw [mentionPermission, Dict.update, hold, Dict.find?_insert, ih, List.map_append,
      mentioning_concat]
    by_cases hid : id = k
    · subst hid
      by_cases hm : m = ""
      · simp [hm]
      · by_cases hin : m ∈ mentioning mentions id <;> simp [hin, hm, eraseDups_concat]
    · have hmem : id ∈ mentions.map Prod.snd ++ [(m, k)].map Prod.snd ↔
          id ∈ mentions.map Prod.snd := by simp [hid]
      simp only [hid, Ne.symm hid, hmem, if_false, false_and]

variable {notes : List SecurityNote} {now : Time}

def mentionsOf (notes : List SecurityNote) : List (String × String) :=
  notes.flatMap fun n => n.permissions.map fun id => (n.moduleName, id)

theorem mem_mentionsOf {m id : String} :
    (m, id) ∈ mentionsOf notes ↔ ∃ n ∈ notes, id ∈ n.permissions ∧ n.moduleName = m := by
  simp only [mentionsOf, List.mem_flatMap, List.mem_map, Prod.mk.injEq]
  constructor
  · rintro ⟨n, hn, x, hx, rfl, rfl⟩
    exact ⟨n, hn, hx, rfl⟩
  · rintro ⟨n, hn, hid, rfl⟩
    exact ⟨n, hn, id, hid, rfl, rfl⟩

def registry (notes : List SecurityNote) : Dict Permission :=
  (mentionsOf notes).foldl (fun found e => mentionPermission e.1 found e.2) .empty

theorem permissions_ofNotes (notes : List SecurityNote) (now : Time) :
    (ofNotes notes now).permissions = (registry notes).values := by
  unfold registry mentionsOf
  rw [List.foldl_flatMap]
  simp only [List.foldl_map]
  rfl

theorem ids_permissions (notes : List SecurityNote) (now : Time) :
    (ofNotes notes now).permissions.map Permission.id = (registry notes).keys := by
  rw [permissions_ofNotes, Dict.values, Dict.keys, List.map_map]
  refine List.map_congr_left fun e he => ?_
  have hfind := Dict.mem_entries_iff.mp he
  rw [registry, find?_mentionPermission] at hfind
  split at hfind
  · exact congrArg Permission.id (Option.some.inj hfind).symm
  · cases hfind

/-! ### Batches -/

/-- No id is there twice, and all that policies need is there. -/
structure IsClosed (notes : List SecurityNote) (now : Time) (b : Batch) : Prop where
  policyIds : (b.policies.map Policy.id).Nodup
  roleIds : (b.roles.map Role.id).Nodup
  builtin : Role.builtin now <+: b.roles
  permissionIds : (b.permissions.map Permission.id).Nodup
  rolesNamed : ∀ p ∈ b.policies, p.roles ≠ []
  roles : ∀ p ∈ b.policies, ∀ id ∈ p.roles, id ∈ b.roles.map Role.id
  permissions : ∀ p ∈ b.policies, ∀ id ∈ p.permissions, id ∈ b.permissions.map Permission.id
  modules : ∀ p ∈ b.permissions, p.modules.Nodup ∧
    ∀ m, m ∈ p.modules ↔ m ≠ "" ∧ ∃ n ∈ notes, p.id ∈ n.permissions ∧ n.moduleName = m

/-- The policies are those of the notes that no note with the same id follows. -/
theorem mem_policies_iff {p : Policy} : p ∈ (ofNotes notes now).policies ↔
    ∃ before n after, notes = before ++ n :: after ∧ n.policy? now = some p ∧
      ∀ n' ∈ after, n'.Counts → n'.policyId ≠ n.policyId := by
  have hlast : ∀ {n : SecurityNote} {after : List SecurityNote}, n.policy? now = some p →
      ((∀ q ∈ after.filterMap fun n => n.policy? now, q.id ≠ p.id) ↔
        ∀ n' ∈ after, n'.Counts → n'.policyId ≠ n.policyId) := by
    intro n after hp
    rw [(SecurityNote.gives_of_policy? hp).id]
    constructor
    · intro h n' hn' hcounts
      obtain ⟨q, hq⟩ := SecurityNote.exists_policy? hcounts now
      rw [← (SecurityNote.gives_of_policy? hq).id]
      exact h q (List.mem_filterMap.mpr ⟨n', hn', hq⟩)
    · intro h q hq
      obtain ⟨n', hn', hq⟩ := List.mem_filterMap.mp hq
      have hgives := SecurityNote.gives_of_policy? hq
      rw [hgives.id]
      exact h n' hn' hgives.counts
  rw [ofNotes, mem_foldl_putPolicy]
  constructor
  · rintro ⟨_, _, heq, hafter⟩
    obtain ⟨before, rest, rfl, _, hrest⟩ := List.filterMap_eq_append_iff.mp heq
    obtain ⟨skipped, n, after, rfl, _, hp, rfl⟩ := List.filterMap_eq_cons_iff.mp hrest
    exact ⟨before ++ skipped, n, after, by simp, hp, (hlast hp).mp hafter⟩
  · rintro ⟨before, n, after, rfl, hp, hafter⟩
    refine ⟨before.filterMap (·.policy? now), _, ?_, (hlast hp).mpr hafter⟩
    simp only [List.filterMap_append, List.filterMap_cons, hp]

theorem gives_of_mem_policies {p : Policy} (h : p ∈ (ofNotes notes now).policies) :
    ∃ n ∈ notes, n.Gives p := by
  obtain ⟨before, n, after, rfl, hp, _⟩ := mem_policies_iff.mp h
  exact ⟨n, by simp, SecurityNote.gives_of_policy? hp⟩

theorem isClosed_ofNotes (notes : List SecurityNote) (now : Time) :
    IsClosed notes now (ofNotes notes now) where
  policyIds := by
    have hempty : (([] : List Policy).map Policy.id).Nodup := List.nodup_nil
    have h := collected_foldl (k := Policy.id) ids_putPolicy hempty
      (notes.filterMap fun n => n.policy? now)
    exact h ▸ nodup_eraseDups _
  roleIds := by
    rw [ids_roles]
    exact nodup_eraseDups _
  builtin := prefix_foldl_discoverRole now _ _
  permissionIds := by
    rw [ids_permissions]
    exact Dict.keys_nodup _
  rolesNamed p hp := by
    obtain ⟨n, _, hgives⟩ := gives_of_mem_policies hp
    exact hgives.roles ▸ n.neededRoles_ne_nil
  roles p hp id hid := by
    obtain ⟨n, hn, hgives⟩ := gives_of_mem_policies hp
    rw [ids_roles, List.mem_eraseDups, List.mem_append]
    rw [hgives.roles, SecurityNote.neededRoles] at hid
    split at hid
    · exact .inl (List.mem_singleton.mp hid ▸ by decide)
    · exact .inr (List.mem_flatMap.mpr ⟨n, hn, hid⟩)
  permissions p hp id hid := by
    obtain ⟨n, hn, hgives⟩ := gives_of_mem_policies hp
    rw [hgives.permissions] at hid
    rw [ids_permissions, Dict.mem_keys_iff, Dict.contains, registry, find?_mentionPermission,
      if_pos (List.mem_map_of_mem (mem_mentionsOf.mpr ⟨n, hn, hid, rfl⟩))]
    rfl
  modules p hp := by
    rw [permissions_ofNotes, Dict.mem_values_iff] at hp
    obtain ⟨id, hfind⟩ := hp
    rw [registry, find?_mentionPermission] at hfind
    split at hfind
    · cases hfind
      refine ⟨nodup_eraseDups _, fun m => ?_⟩
      rw [List.mem_eraseDups, mem_mentioning, mem_mentionsOf]
    · cases hfind

end Batch

end TagAtlas
