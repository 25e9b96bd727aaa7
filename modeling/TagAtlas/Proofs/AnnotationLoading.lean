import TagAtlas.Proofs.AccessCacheTransparency
import TagAtlas.Proofs.AnnotationBatch
import TagAtlas.Proofs.TextParts

/-!
# Batches of annotations load

Whatever notes say, a role that they name is either always there, with parents and permissions that
the batch repeats, or one without parents. So up to their times the stored roles are those of one
table, levels fall from a role to its parents, and nothing in a batch is refused: no id is blank, no
parent is missing, and no role leads to itself.
-/

namespace TagAtlas

open Relation

/-! ### One table of roles -/

theorem Role.absorb_self (r : Role) : r.absorb r = r := by
  have hparents : (r.absorb r).parents = r.parents := appendNew_of_subset fun _ h => h
  have hpermissions : (r.absorb r).permissions = r.permissions := appendNew_of_subset fun _ h => h
  calc r.absorb r
      = { r with
          parents := (r.absorb r).parents, permissions := (r.absorb r).permissions } := rfl
    _ = r := by rw [hparents, hpermissions]

/-- The role of an id as it is always there, or as notes bring it. -/
def Role.standard (id : String) : Role :=
  ((Role.builtin 0).find? (·.id = id)).getD
    { Role.new id SecurityNote.foundRoleLevel 0 with permissions := ["read"] }

namespace Role

variable {id p : String}

theorem standard_of_not_builtin (h : id ∉ Batch.builtinIds) : standard id =
    { Role.new id SecurityNote.foundRoleLevel 0 with permissions := ["read"] } := by
  have hnone : (Role.builtin 0).find? (·.id = id) = none := by
    rw [List.find?_eq_none]
    intro r hr hid
    rw [← Batch.ids_builtin 0] at h
    exact h (of_decide_eq_true hid ▸ List.mem_map_of_mem hr)
  rw [standard, hnone]
  rfl

/-- What holds of the roles that are always there and of those that notes bring. -/
theorem standard_cases {P : String → Role → Prop}
    (hbuiltin : ∀ id ∈ Batch.builtinIds, P id (standard id))
    (hfound : ∀ id ∉ Batch.builtinIds,
      P id { Role.new id SecurityNote.foundRoleLevel 0 with permissions := ["read"] })
    (id : String) : P id (standard id) := by
  by_cases h : id ∈ Batch.builtinIds
  · exact hbuiltin id h
  · rw [standard_of_not_builtin h]
    exact hfound id h

@[simp] theorem standard_id (id : String) : (standard id).id = id :=
  standard_cases (P := fun id r => r.id = id) (by decide) (fun _ _ => rfl) id

@[simp] theorem standard_active (id : String) : (standard id).active = true :=
  standard_cases (P := fun _ r => r.active = true) (by decide) (fun _ _ => rfl) id

/-- Levels fall from a role to its parents, which are always there. -/
theorem level_lt_of_parent : ∀ p ∈ (standard id).parents,
    (standard p).level < (standard id).level ∧ p ∈ Batch.builtinIds :=
  standard_cases (P := fun _ r => ∀ p ∈ r.parents,
    (standard p).level < r.level ∧ p ∈ Batch.builtinIds) (by decide) (by simp [Role.new]) id

theorem untimed_standard (id : String) : (standard id).untimed = standard id :=
  standard_cases (P := fun _ r => r.untimed = r) (by decide) (fun _ _ => rfl) id

end Role

def Roles.standard (ids : List String) : Roles :=
  Dict.ofList (ids.map fun id => (id, Role.standard id))

namespace Roles

variable {ids : List String} {id a b : String}

theorem find?_standard (ids : List String) (id : String) :
    (standard ids).find? id = if id ∈ ids then some (Role.standard id) else none :=
  Dict.find?_ofList_map ids Role.standard id

theorem parent_standard_iff :
    (standard ids).Parent a b ↔ a ∈ ids ∧ b ∈ (Role.standard a).parents := by
  unfold Parent
  rw [find?_standard]
  by_cases h : a ∈ ids <;> simp [h]

/-- Along parents the level does not rise. -/
theorem level_le_of_path (h : ReflTransGen (standard ids).Parent a b) :
    (Role.standard b).level ≤ (Role.standard a).level := by
  induction h with
  | refl => exact Nat.le_refl _
  | tail _ hstep ih =>
    have hlt := (Role.level_lt_of_parent _ (parent_standard_iff.mp hstep).2).1
    omega

/-- A role of the table may be stored beside others, if its id is not blank. -/
theorem fault?_standard (hbuiltin : Batch.builtinIds ⊆ ids) (hid : Text.trimmed id ≠ "") :
    (standard ids).fault? (Role.standard id) = none := by
  refine fault?_eq_none_iff.mpr ⟨by simpa using hid, fun p hp => ?_, fun p hp hpath => ?_⟩
  · obtain ⟨hlt, hmem⟩ := Role.level_lt_of_parent p hp
    refine ⟨fun heq => ?_, ?_⟩
    · rw [Role.standard_id] at heq
      exact Nat.lt_irrefl _ (heq ▸ hlt)
    · rw [Dict.contains, find?_standard, if_pos (hbuiltin hmem)]
      rfl
  · have hlt := (Role.level_lt_of_parent p hp).1
    have hle := level_le_of_path hpath
    rw [Role.standard_id] at hle
    omega

theorem standard_concat (ids : List String) (id : String) :
    standard (ids ++ [id]) = (standard ids).insert id (Role.standard id) := by
  simp [standard, Dict.ofList]

/-- To place a role again changes nothing about it. -/
theorem place_standard (ids : List String) (id : String) :
    (standard ids).place (Role.standard id) 0 = standard (ids ++ [id]) := by
  have hupdated : 0 = (Role.standard id).updatedAt :=
    congrArg Role.updatedAt (Role.untimed_standard id)
  have hsame : ({ Role.standard id with updatedAt := 0 } : Role) = Role.standard id := by
    rw [hupdated]
  have hfind : (standard ids).find? (Role.standard id).id =
      if id ∈ ids then some (Role.standard id) else none := by
    rw [find?_standard, Role.standard_id]
  rw [place, hfind, standard_concat]
  by_cases h : id ∈ ids
  · simp only [if_pos h, hsame]
    rw [Role.standard_id]
  · simp only [if_neg h]
    rw [Role.standard_id]

theorem addAll_standard (hbuiltin : Batch.builtinIds ⊆ ids) {more : List String}
    (hmore : ∀ id ∈ more, Text.trimmed id ≠ "") :
    (standard ids).addAll 0 (more.map Role.standard) = .ok (standard (ids ++ more)) := by
  induction more generalizing ids with
  | nil => simp [addAll]
  | cons id rest ih =>
    have hadd : (standard ids).add (Role.standard id) 0 = .ok (standard (ids ++ [id])) :=
      add_eq_ok_iff.mpr ⟨fault?_standard hbuiltin (hmore id List.mem_cons_self),
        (place_standard ids id).symm⟩
    have hrest := @ih (ids ++ [id]) (fun x hx => List.mem_append_left _ (hbuiltin hx))
      fun x hx => hmore x (List.mem_cons_of_mem _ hx)
    rw [List.append_assoc, List.singleton_append] at hrest
    rw [List.map_cons, addAll, Role.standard_id, find?_standard]
    by_cases h : id ∈ ids
    · simp only [if_pos h, Role.absorb_self, hadd, hrest]
    · simp only [if_neg h, hadd, hrest]

theorem untimed_initial (now : Time) :
    untimed (Dict.ofList ((Role.builtin now).map fun r => (r.id, r))) =
      standard Batch.builtinIds := by
  rw [untimed_builtin now 0, untimed, Dict.mapValues_ofList]
  rfl

end Roles

namespace Batch

variable {notes : List SecurityNote} {now : Time}

/-- Each role of a batch is, up to its times, the one of the table. -/
theorem untimed_of_mem_roles {r : Role} (h : r ∈ (ofNotes notes now).roles) :
    r.untimed = Role.standard r.id := by
  have hfold : ∀ found : List String, ∀ r ∈ found.foldl (discoverRole now) (Role.builtin now),
      r.untimed = Role.standard r.id := by
    intro found
    induction found using List.reverseRecOn with
    | nil =>
      intro r hr
      simp only [List.foldl_nil, Role.builtin, List.mem_cons, List.not_mem_nil, or_false] at hr
      rcases hr with rfl | rfl | rfl | rfl <;> rfl
    | append_singleton found id ih =>
      rw [List.foldl_append, List.foldl_cons, List.foldl_nil, discoverRole]
      split
      · exact ih
      next hnew =>
        intro r hr
        rcases List.mem_append.mp hr with hr | hr
        · exact ih r hr
        · obtain rfl := List.mem_singleton.mp hr
          refine (Role.standard_of_not_builtin fun hid => hnew ?_).symm
          rw [← ids_builtin now] at hid
          obtain ⟨r, hr, hid⟩ := List.mem_map.mp hid
          exact List.any_eq_true.mpr
            ⟨r, (prefix_foldl_discoverRole now _ found).subset hr, decide_eq_true hid⟩
  exact hfold _ r h

theorem untimed_roles (notes : List SecurityNote) (now : Time) :
    (ofNotes notes now).roles.map Role.untimed =
      ((ofNotes notes now).roles.map Role.id).map Role.standard := by
  rw [List.map_map]
  exact List.map_congr_left fun r hr => untimed_of_mem_roles hr

end Batch

/-! ### Loading -/

namespace SecurityNote

/-- No text of the note that access control asks for is blank. -/
structure IsShown (n : SecurityNote) : Prop where
  roles : ∀ id ∈ n.roles, Text.trimmed id ≠ ""
  resource : Text.trimmed n.policyResource ≠ ""

variable {n : SecurityNote} {p : Policy}

theorem Gives.fault?_eq_none (h : n.Gives p) (hshown : n.IsShown) : p.fault? = none := by
  have hid : Text.trimmed p.id ≠ "" := by
    rw [h.id]
    exact Text.trimmed_ne_empty_of_mem (c := 'p') (by simp [policyId]) (by decide)
  have hresource : Text.trimmed p.resource ≠ "" := h.resource ▸ hshown.resource
  have hroles : p.roles ≠ [] := h.roles ▸ n.neededRoles_ne_nil
  simp [Policy.fault?, hid, hresource, hroles]

/-- Items of lists are not blank. -/
theorem trimmed_ne_empty_of_mem_listOf {t : Tag} {singular plural x : String}
    (h : x ∈ listOf t singular plural) : Text.trimmed x ≠ "" := by
  have hitems : ∀ {s : String}, x ∈ listItems s → Text.trimmed x ≠ "" := by
    intro s hs
    obtain ⟨hs, hne⟩ := List.mem_filter.mp (List.mem_eraseDups.mp hs)
    obtain ⟨piece, _, rfl⟩ := List.mem_map.mp hs
    exact Text.trimmed_trimmed_ne_empty (of_decide_eq_true hne)
  have hattribute : ∀ {key : String}, x ∈ ((t.attribute? key).map listItems).getD [] →
      Text.trimmed x ≠ "" := by
    intro key hkey
    cases hvalue : t.attribute? key with
    | none => simp [hvalue] at hkey
    | some s =>
      rw [hvalue] at hkey
      exact hitems hkey
  rw [listOf, List.mem_eraseDups, List.mem_append] at h
  exact h.elim hattribute hattribute

theorem trimmed_resourceOf?_ne_empty {t : Tag} (h : ∀ v ∈ t.value, Text.trimmed v ≠ "")
    {resource : String} (hresource : resourceOf? t = some resource) :
    Text.trimmed resource ≠ "" := by
  unfold resourceOf? at hresource
  split at hresource
  next named hnamed =>
    cases hresource
    obtain ⟨hmap, hne⟩ := Option.filter_eq_some_iff.mp hnamed
    obtain ⟨s, _, rfl⟩ := Option.map_eq_some_iff.mp hmap
    exact Text.trimmed_trimmed_ne_empty (of_decide_eq_true hne)
  next =>
    split at hresource
    next value hvalue =>
      cases hresource
      exact h _ (Option.filter_eq_some_iff.mp hvalue).1
    next =>
      split at hresource
      next htype =>
        cases hresource
        have hstarts := (Bool.and_eq_true_iff.mp htype).1
        obtain ⟨rest, hrest⟩ := Option.isSome_iff_exists.mp hstarts
        refine Text.trimmed_ne_empty_of_mem (c := 's') ?_ (by decide)
        rw [Text.after?_eq_some_iff.mp hrest]
        exact List.mem_append_left _ (by decide)
      next => cases hresource

theorem isShown_ofTag (s : Survey) {t : Tag} (h : ∀ v ∈ t.value, Text.trimmed v ≠ "") :
    (ofTag s t).IsShown where
  roles id hid := trimmed_ne_empty_of_mem_listOf hid
  resource := by
    unfold policyResource ofTag
    dsimp only
    cases hresource : resourceOf? t with
    | none => decide
    | some resource => exact trimmed_resourceOf?_ne_empty h hresource

end SecurityNote

/-- The tags of the survey have no value or one that is not blank. -/
def Survey.ValuesShown (s : Survey) : Prop := ∀ t ∈ s.tags, ∀ v ∈ t.value, Text.trimmed v ≠ ""

instance (s : Survey) : Decidable s.ValuesShown :=
  inferInstanceAs (Decidable (∀ t ∈ s.tags, ∀ v ∈ t.value, _))

theorem Survey.ValuesShown.isShown {s : Survey} (h : s.ValuesShown) :
    ∀ n ∈ s.securityNotes, n.IsShown := by
  intro n hn
  obtain ⟨t, ht, rfl⟩ := List.mem_map.mp hn
  exact SecurityNote.isShown_ofTag s (h t (List.mem_filter.mp ht).1)

namespace AccessCore

variable {settings : AccessSettings} {notes : List SecurityNote} {now now' start : Time}
  {c : AccessCore}

/-- Policies with different ids are all stored, as they are. -/
theorem find?_foldl_placePolicy {policies : List Policy} (h : (policies.map Policy.id).Nodup)
    {id : String} {p : Policy} :
    (policies.foldl (fun ps p => placePolicy ps p now) .empty).find? id = some p ↔
      p ∈ policies ∧ p.id = id := by
  induction policies using List.reverseRecOn generalizing id p with
  | nil => simp
  | append_singleton policies q ih =>
    rw [List.map_append, List.map_singleton, ← List.concat_eq_append, List.nodup_concat] at h
    obtain ⟨hq, hpolicies⟩ := h
    have hstored := @ih hpolicies
    rw [List.foldl_append, List.foldl_cons, List.foldl_nil]
    generalize policies.foldl (fun ps p => placePolicy ps p now) .empty = stored at hstored
    have hnone : stored.find? q.id = none := by
      refine Option.eq_none_iff_forall_ne_some.mpr fun x hx => hq ?_
      obtain ⟨hx, hid⟩ := hstored.mp hx
      exact hid ▸ List.mem_map_of_mem hx
    have hplace : placePolicy stored q now = stored.insert q.id q := by
      rw [placePolicy, hnone]
    rw [hplace, Dict.find?_insert, List.mem_append, List.mem_singleton]
    by_cases hid : id = q.id
    · subst hid
      rw [if_pos rfl, Option.some.injEq]
      constructor
      · rintro rfl
        exact ⟨.inr rfl, rfl⟩
      · rintro ⟨hp | rfl, hid⟩
        · exact absurd (hid ▸ List.mem_map_of_mem hp) hq
        · rfl
    · rw [if_neg hid, hstored]
      constructor
      · rintro ⟨hp, hpid⟩
        exact ⟨.inl hp, hpid⟩
      · rintro ⟨hp | rfl, hpid⟩
        · exact ⟨hp, hpid⟩
        · exact absurd hpid.symm hid

/-- What is known of access control after it has started and loaded a batch of notes. -/
structure Loaded (settings : AccessSettings) (notes : List SecurityNote) (now : Time)
    (c : AccessCore) : Prop where
  settings : c.settings = settings
  policies : ∀ id p, c.policies.find? id = some p ↔
    p ∈ (Batch.ofNotes notes now).policies ∧ p.id = id
  roles : c.roles.untimed =
    Roles.standard (Batch.builtinIds ++ (Batch.ofNotes notes now).roles.map Role.id)

/-- The stored roles are those that are always there and those that notes name. -/
theorem Loaded.find?_roles (h : Loaded settings notes now c) (id : String) :
    (c.roles.find? id).map Role.untimed =
      if id ∈ Batch.builtinIds ++ notes.flatMap SecurityNote.roles then some (Role.standard id)
      else none := by
  have hmem : id ∈ Batch.builtinIds ++ (Batch.ofNotes notes now).roles.map Role.id ↔
      id ∈ Batch.builtinIds ++ notes.flatMap SecurityNote.roles := by
    simp only [Batch.ids_roles, List.mem_append, List.mem_eraseDups]
    tauto
  rw [← Roles.find?_untimed, h.roles, Roles.find?_standard]
  simp only [hmem]

theorem exists_apply_ofNotes (hnotes : ∀ n ∈ notes, n.IsShown)
    (hnew : AccessCore.new settings start = .ok c) (now now' : Time) :
    ∃ d, c.apply (Batch.ofNotes notes now) now' = (.ok (), d) ∧ Loaded settings notes now d := by
  obtain ⟨_, rfl⟩ := new_eq_ok_iff.mp hnew
  have hclosed := Batch.isClosed_ofNotes notes now
  have hfault : policyFault? (Batch.ofNotes notes now).policies = none := by
    refine List.findSome?_eq_none_iff.mpr fun p hp => ?_
    obtain ⟨n, hn, hgives⟩ := Batch.gives_of_mem_policies hp
    exact hgives.fault?_eq_none (hnotes n hn)
  have hids : ∀ id ∈ (Batch.ofNotes notes now).roles.map Role.id, Text.trimmed id ≠ "" := by
    intro id hid
    rw [Batch.ids_roles, List.mem_eraseDups, List.mem_append] at hid
    rcases hid with hid | hid
    · revert id
      decide
    · obtain ⟨n, hn, hid⟩ := List.mem_flatMap.mp hid
      exact (hnotes n hn).roles id hid
  have hroles : ((initial settings start).roles.addAll now' (Batch.ofNotes notes now).roles).map
      Roles.untimed = .ok (Roles.standard
        (Batch.builtinIds ++ (Batch.ofNotes notes now).roles.map Role.id)) := by
    rw [Roles.addAll_untimed, Batch.untimed_roles, initial, Roles.untimed_initial]
    exact Roles.addAll_standard (List.Subset.refl _) hids
  unfold apply
  rw [hfault]
  dsimp only
  cases hadd : (initial settings start).roles.addAll now' (Batch.ofNotes notes now).roles with
  | error f =>
    rw [hadd] at hroles
    cases hroles
  | ok roles =>
    rw [hadd] at hroles
    exact ⟨_, rfl, rfl, fun id p => find?_foldl_placePolicy hclosed.policyIds,
      Except.ok.inj hroles⟩

end AccessCore

/-- What annotations give is closed, and access control that has just started loads it. -/
theorem Batch.isClosed_and_loads_ofSurvey {s : Survey} (h : s.ValuesShown) (now : Time) :
    IsClosed s.securityNotes now (ofSurvey s now) ∧
      ∀ settings start c, AccessCore.new settings start = .ok c →
        ∀ now', (c.apply (ofSurvey s now) now').1 = .ok () := by
  refine ⟨isClosed_ofNotes s.securityNotes now, fun settings start c hnew now' => ?_⟩
  obtain ⟨d, hd, _⟩ := AccessCore.exists_apply_ofNotes h.isShown hnew now now'
  rw [ofSurvey, hd]

/-- Two notes from one place, one that names a new role and the other no role at all. -/
theorem Batch.isClosed_and_loads_ofSurvey_repeated_place :
    let tag (value : Option String) (attributes : List (String × String)) (line : Nat) : Tag :=
      ⟨.security, value, Dict.ofList attributes, line, "", none, some "bill.go"⟩
    let s : Survey := { Survey.new "proj" (Stamp.ofNanoseconds 0) with
      tags := [tag (some "invoice") [("roles", "clerk, user, clerk"), ("permission", "pay")] 4,
        tag (some "invoice") [("permission", "pay"), ("permissions", "audit, pay")] 4,
        tag none [("role", "admin"), ("resource", " ledger* ")] 9]
      files := [⟨"bill.go", "billing", none, [], [], [], 20, 400⟩] }
    s.ValuesShown ∧ IsClosed s.securityNotes 1 (ofSurvey s 1) ∧
      AccessCore.new .standard 0 = .ok (.initial .standard 0) ∧
      ((AccessCore.initial .standard 0).apply (ofSurvey s 1) 2).1 = .ok () := by
  intro tag s
  have hvalues : s.ValuesShown := by decide +kernel
  have hnew : AccessCore.new .standard 0 = .ok (.initial .standard 0) :=
    AccessCore.new_eq_ok_iff.mpr ⟨rfl, rfl⟩
  obtain ⟨hclosed, hloads⟩ := isClosed_and_loads_ofSurvey hvalues 1
  exact ⟨hvalues, hclosed, hnew, hloads .standard 0 _ hnew 2⟩

end TagAtlas
