import TagAtlas.Proofs.RoleAncestors

/-!
# Updates keep the roles a hierarchy

A role is stored only if its parents are stored and none of them leads to it. The test is made
while an earlier definition of the role may still be there; this does no harm, because a path to
the role is a path to its first visit, and up to there the old and the new parents agree.
-/

namespace TagAtlas.Roles

open Relation

/-- Roles stored under their own ids, with stored parents and without a cycle. -/
structure IsHierarchy (roles : Roles) : Prop where
  ownId : ∀ id r, roles.find? id = some r → r.id = id
  parentStored : ∀ a b, roles.Parent a b → roles.contains b = true
  acyclic : roles.Acyclic

variable {roles : Roles}

theorem leadsTo_iff {starts : List String} {target : String} :
    roles.leadsTo starts target = true ↔ ∃ s ∈ starts, ReflTransGen roles.Parent s target := by
  have hedge : roles.parentLists.Edge = roles.Parent := by
    funext a b
    exact propext edge_parentLists_iff
  unfold leadsTo
  rw [List.contains_iff_mem, Reachable.mem_walk_iff_of_covers (Dict.sortedSet_nodup _), hedge]
  · exact fun t ht => Dict.mem_sortedSet.mpr (List.mem_append_right _ ht)
  · exact fun a b hab =>
      Dict.mem_sortedSet.mpr (List.mem_append_left _ (Adjacency.target_mem_nodes hab))

theorem parentFault?_eq_none_iff {r : Role} {p : String} :
    roles.parentFault? r p = none ↔ p ≠ r.id ∧ roles.contains p = true := by
  unfold parentFault?
  split
  · simp_all
  · cases h : roles.contains p <;> simp_all

/-- A role may be stored when its id is not blank, its parents are stored other roles, and none of
them leads to it. -/
theorem fault?_eq_none_iff {r : Role} :
    roles.fault? r = none ↔ Text.trimmed r.id ≠ "" ∧
      (∀ p ∈ r.parents, p ≠ r.id ∧ roles.contains p = true) ∧
      ∀ p ∈ r.parents, ¬ ReflTransGen roles.Parent p r.id := by
  have hall : r.parents.findSome? (roles.parentFault? r) = none ↔
      ∀ p ∈ r.parents, p ≠ r.id ∧ roles.contains p = true := by
    simp [List.findSome?_eq_none_iff, parentFault?_eq_none_iff]
  have hlead : roles.leadsTo r.parents r.id = false ↔
      ∀ p ∈ r.parents, ¬ ReflTransGen roles.Parent p r.id := by
    rw [← Bool.not_eq_true, leadsTo_iff]
    simp
  unfold fault?
  split
  next hb => simp [hb]
  next hb =>
    cases hf : r.parents.findSome? (roles.parentFault? r) with
    | some fault => simp [hb, ← hall, hf]
    | none => cases hl : roles.leadsTo r.parents r.id <;> simp [hb, ← hall, ← hlead, hf, hl]

theorem add_eq_ok_iff {r : Role} {now : Time} {roles' : Roles} :
    roles.add r now = .ok roles' ↔ roles.fault? r = none ∧ roles' = roles.place r now := by
  unfold add
  cases roles.fault? r <;> simp [eq_comm]

/-- What is placed differs from the given role in its state and times at most. -/
theorem exists_place_eq (roles : Roles) (r : Role) (now : Time) :
    ∃ s : Role, roles.place r now = roles.insert r.id s ∧ s.id = r.id ∧ s.parents = r.parents := by
  unfold place
  cases roles.find? r.id with
  | none => exact ⟨r, rfl, rfl, rfl⟩
  | some old => exact ⟨_, rfl, rfl, rfl⟩

/-! ### The parent relation after an update -/

theorem parent_insert_self {key b : String} {s : Role} :
    Parent (roles.insert key s) key b ↔ b ∈ s.parents := by
  simp [Parent]

theorem parent_insert_of_ne {key a b : String} {s : Role} (h : a ≠ key) :
    Parent (roles.insert key s) a b ↔ roles.Parent a b := by
  simp [Parent, h]

/-- Up to its first visit to the updated role, a path uses old parents only. -/
theorem reaches_of_insert {key a : String} {s : Role}
    (h : ReflTransGen (Parent (roles.insert key s)) a key) : ReflTransGen roles.Parent a key := by
  induction h using ReflTransGen.head_induction_on with
  | refl => exact .refl
  | @head a b hab _ ih =>
    by_cases ha : a = key
    · subst ha; exact .refl
    · exact .head ((parent_insert_of_ne ha).mp hab) ih

/-- A path after an update is an old one, or leads through the updated role. -/
theorem path_insert_cases {key a b : String} {s : Role}
    (h : TransGen (Parent (roles.insert key s)) a b) :
    TransGen roles.Parent a b ∨ ReflTransGen (Parent (roles.insert key s)) a key ∧
      ∃ p ∈ s.parents, ReflTransGen (Parent (roles.insert key s)) p b := by
  induction h with
  | @single b hab =>
    by_cases ha : a = key
    · subst ha
      exact .inr ⟨.refl, b, parent_insert_self.mp hab, .refl⟩
    · exact .inl (.single ((parent_insert_of_ne ha).mp hab))
  | @tail b c hpath hbc ih =>
    rcases ih with hold | ⟨hkey, p, hp, hpb⟩
    · by_cases hb : b = key
      · subst hb
        exact .inr ⟨hpath.to_reflTransGen, c, parent_insert_self.mp hbc, .refl⟩
      · exact .inl (hold.tail ((parent_insert_of_ne hb).mp hbc))
    · exact .inr ⟨hkey, p, hp, hpb.tail hbc⟩

theorem Acyclic.insert (ha : roles.Acyclic) {key : String} {s : Role}
    (hfree : ∀ p ∈ s.parents, ¬ ReflTransGen roles.Parent p key) :
    Acyclic (roles.insert key s) := by
  intro id hcycle
  -- a new cycle goes through `key`, and on from there to a parent that leads back to it
  rcases path_insert_cases hcycle with hold | ⟨hkey, p, hp, hpid⟩
  · exact ha id hold
  · exact hfree p hp (reaches_of_insert (hpid.trans hkey))

namespace IsHierarchy

theorem insert (h : roles.IsHierarchy) {key : String} {s : Role} (hown : s.id = key)
    (hstored : ∀ p ∈ s.parents, roles.contains p = true)
    (hfree : ∀ p ∈ s.parents, ¬ ReflTransGen roles.Parent p key) :
    IsHierarchy (roles.insert key s) where
  ownId id r hr := by
    by_cases hid : id = key
    · simp only [Dict.find?_insert, hid, if_true, Option.some.injEq] at hr
      rw [← hr, hown, hid]
    · exact h.ownId id r (by simpa [hid] using hr)
  parentStored a b hab := by
    have hb : roles.contains b = true := by
      by_cases ha : a = key
      · subst ha; exact hstored b (parent_insert_self.mp hab)
      · exact h.parentStored a b ((parent_insert_of_ne ha).mp hab)
    simp [hb]
  acyclic := h.acyclic.insert hfree

/-- Nothing leads to a role that is not stored, except itself. -/
theorem insert_new (h : roles.IsHierarchy) {key : String} {s : Role} (hown : s.id = key)
    (hnew : roles.contains key = false) (hstored : ∀ p ∈ s.parents, roles.contains p = true) :
    IsHierarchy (roles.insert key s) := by
  refine h.insert hown hstored ?_
  intro p hp hpath
  have hkey : roles.contains key = true := by
    rcases hpath.cases_tail with rfl | ⟨c, _, hc⟩
    · exact hstored key hp
    · exact h.parentStored c key hc
  simp [hnew] at hkey

theorem add (h : roles.IsHierarchy) {r : Role} {now : Time} {roles' : Roles}
    (hadd : roles.add r now = .ok roles') : roles'.IsHierarchy := by
  obtain ⟨hfault, rfl⟩ := add_eq_ok_iff.mp hadd
  obtain ⟨_, hstored, hfree⟩ := fault?_eq_none_iff.mp hfault
  obtain ⟨s, hs, hid, hparents⟩ := exists_place_eq roles r now
  rw [hs]
  exact h.insert hid (fun p hp => (hstored p (hparents ▸ hp)).2)
    (fun p hp => hfree p (hparents ▸ hp))

theorem addAll (h : roles.IsHierarchy) {incoming : List Role} {now : Time} {roles' : Roles}
    (hadd : roles.addAll now incoming = .ok roles') : roles'.IsHierarchy := by
  induction incoming generalizing roles with
  | nil => cases hadd; exact h
  | cons r rest ih =>
    simp only [Roles.addAll] at hadd
    split at hadd
    next mid hm => exact ih (h.add hm) hadd
    next => cases hadd

/-- The state of a stored role may change. -/
theorem insert_restated (h : roles.IsHierarchy) {id : String} {r s : Role}
    (hr : roles.find? id = some r) (hid : s.id = r.id) (hparents : s.parents = r.parents) :
    IsHierarchy (roles.insert id s) := by
  have hparent : ∀ p ∈ s.parents, roles.Parent id p := fun p hp => ⟨r, hr, hparents ▸ hp⟩
  refine h.insert (hid.trans (h.ownId id r hr)) ?_ ?_
  · exact fun p hp => h.parentStored id p (hparent p hp)
  · exact fun p hp hpath => h.acyclic id (.head' (hparent p hp) hpath)

theorem empty : IsHierarchy (Dict.empty : Roles) where
  ownId id r hr := by simp at hr
  parentStored a b hab := by
    obtain ⟨r, hr, _⟩ := hab
    simp at hr
  acyclic id hcycle := by
    obtain ⟨b, ⟨r, hr, _⟩, _⟩ := TransGen.head'_iff.mp hcycle
    simp at hr

end IsHierarchy

/-- The roles that are always there are a hierarchy. -/
theorem isHierarchy_builtin (now : Time) :
    IsHierarchy (Dict.ofList ((Role.builtin now).map fun r => (r.id, r))) := by
  have hempty : ∀ k, (Dict.empty : Roles).contains k = false := fun _ => rfl
  simp only [Dict.ofList, Role.builtin, List.map_cons, List.map_nil, List.foldl_cons,
    List.foldl_nil]
  refine .insert_new (.insert_new (.insert_new (.insert_new .empty ?_ ?_ ?_) ?_ ?_ ?_) ?_ ?_ ?_)
    ?_ ?_ ?_ <;> simp [Role.new, Role.authenticatedId, hempty]

end TagAtlas.Roles
