import TagAtlas.Proofs.FirstOccurrences
import TagAtlas.Proofs.RoleHierarchyUpdates

/-!
# Roles that are stored one after another

A role whose id is stored by then is joined to the stored one, which keeps all it has and gets new
parents and permissions at the end. So stored roles only grow. Once they have all that a list
brings, the list can be stored again, and changes no more than the times of the last changes.
-/

namespace TagAtlas

namespace Role

/-- The same role with more parents and permissions at the end. -/
structure Grows (r s : Role) : Prop where
  id : s.id = r.id
  name : s.name = r.name
  level : s.level = r.level
  active : s.active = r.active
  createdAt : s.createdAt = r.createdAt
  parents : r.parents <+: s.parents
  permissions : r.permissions <+: s.permissions

/-- The role has the parents and permissions of another one. -/
structure Covers (s r : Role) : Prop where
  parents : ∀ p ∈ r.parents, p ∈ s.parents
  permissions : ∀ p ∈ r.permissions, p ∈ s.permissions

/-- A role apart from the time of its last change. -/
def undated (r : Role) : Role := { r with updatedAt := 0 }

variable {r s t : Role}

theorem Grows.refl (r : Role) : r.Grows r :=
  ⟨rfl, rfl, rfl, rfl, rfl, List.prefix_rfl, List.prefix_rfl⟩

theorem Grows.trans (h : r.Grows s) (h' : s.Grows t) : r.Grows t where
  id := h'.id.trans h.id
  name := h'.name.trans h.name
  level := h'.level.trans h.level
  active := h'.active.trans h.active
  createdAt := h'.createdAt.trans h.createdAt
  parents := h.parents.trans h'.parents
  permissions := h.permissions.trans h'.permissions

theorem Covers.refl (r : Role) : r.Covers r := ⟨fun _ h => h, fun _ h => h⟩

theorem Covers.grows (h : s.Covers r) (hgrows : s.Grows t) : t.Covers r where
  parents p hp := hgrows.parents.subset (h.parents p hp)
  permissions p hp := hgrows.permissions.subset (h.permissions p hp)

theorem grows_absorb (r s : Role) : r.Grows (r.absorb s) where
  id := rfl
  name := rfl
  level := rfl
  active := rfl
  createdAt := rfl
  parents := prefix_appendNew r.parents s.parents
  permissions := prefix_appendNew r.permissions s.permissions

theorem covers_absorb (r s : Role) : (r.absorb s).Covers s where
  parents _ hp := mem_appendNew.mpr (.inr hp)
  permissions _ hp := mem_appendNew.mpr (.inr hp)

theorem Covers.absorb_eq (h : s.Covers r) : s.absorb r = s := by
  have hparents : (s.absorb r).parents = s.parents := appendNew_of_subset h.parents
  have hpermissions : (s.absorb r).permissions = s.permissions := appendNew_of_subset h.permissions
  calc s.absorb r
      = { s with
          parents := (s.absorb r).parents, permissions := (s.absorb r).permissions } := rfl
    _ = s := by rw [hparents, hpermissions]

end Role

namespace Roles

variable {roles roles' : Roles} {r : Role} {incoming : List Role} {now : Time} {f : Failure}

/-- The stored roles apart from the times of their last changes. -/
def undated (roles : Roles) : Roles := roles.mapValues fun _ r => r.undated

/-- What is to be stored for a role: it is joined to the one that has its id. -/
def joined (roles : Roles) (r : Role) : Role :=
  match roles.find? r.id with
  | some stored => stored.absorb r
  | none => r

theorem addAll_cons (roles : Roles) (now : Time) (r : Role) (rest : List Role) :
    roles.addAll now (r :: rest) = match roles.add (roles.joined r) now with
      | .ok roles => roles.addAll now rest
      | .error f => .error f := rfl

theorem addAll_cons_eq_ok_iff {rest : List Role} :
    roles.addAll now (r :: rest) = .ok roles' ↔
      ∃ mid, roles.add (roles.joined r) now = .ok mid ∧ mid.addAll now rest = .ok roles' := by
  rw [addAll_cons]
  cases roles.add (roles.joined r) now <;> simp

theorem add_eq_error_iff :
    roles.add r now = .error f ↔
      ∃ fault, roles.fault? r = some fault ∧ f = .invalidInput fault.message := by
  unfold add
  cases roles.fault? r <;> simp [eq_comm]

/-- A list of roles is refused for the first of them that is refused where it comes. -/
theorem addAll_eq_error_iff :
    roles.addAll now incoming = .error f ↔ ∃ before r after staged fault,
      incoming = before ++ r :: after ∧ roles.addAll now before = .ok staged ∧
        staged.fault? (staged.joined r) = some fault ∧ f = .invalidInput fault.message := by
  induction incoming generalizing roles with
  | nil => simp [addAll]
  | cons r rest ih =>
    rw [addAll_cons]
    cases hadd : roles.add (roles.joined r) now with
    | error g =>
      obtain ⟨fault, hfault, rfl⟩ := add_eq_error_iff.mp hadd
      constructor
      · intro h
        cases h
        exact ⟨[], r, rest, roles, fault, rfl, rfl, hfault, rfl⟩
      · rintro ⟨before, r', after, staged, fault', hsplit, hbefore, hfault', rfl⟩
        cases before with
        | nil =>
          obtain ⟨rfl, rfl⟩ := List.cons.inj hsplit
          cases hbefore
          rw [hfault] at hfault'
          cases hfault'
          rfl
        | cons x before =>
          obtain ⟨rfl, rfl⟩ := List.cons.inj hsplit
          obtain ⟨mid, hmid, _⟩ := addAll_cons_eq_ok_iff.mp hbefore
          rw [hadd] at hmid
          cases hmid
    | ok mid =>
      refine ih.trans ?_
      constructor
      · rintro ⟨before, r', after, staged, fault, rfl, hbefore, hfault, rfl⟩
        exact ⟨r :: before, r', after, staged, fault, rfl,
          addAll_cons_eq_ok_iff.mpr ⟨mid, hadd, hbefore⟩, hfault, rfl⟩
      · rintro ⟨before, r', after, staged, fault, hsplit, hbefore, hfault, rfl⟩
        cases before with
        | nil =>
          obtain ⟨rfl, rfl⟩ := List.cons.inj hsplit
          cases hbefore
          rw [(add_eq_ok_iff.mp hadd).1] at hfault
          cases hfault
        | cons x before =>
          obtain ⟨rfl, rfl⟩ := List.cons.inj hsplit
          obtain ⟨mid', hmid, hbefore⟩ := addAll_cons_eq_ok_iff.mp hbefore
          rw [hadd] at hmid
          cases hmid
          exact ⟨before, r', after, staged, fault, rfl, hbefore, hfault, rfl⟩

/-! ### Growing -/

/-- Every stored role is there later, and has only grown. -/
def Grow (roles roles' : Roles) : Prop :=
  ∀ id r, roles.find? id = some r → ∃ s, roles'.find? id = some s ∧ r.Grows s

/-- The role is stored with all that it brings. -/
structure Holds (roles : Roles) (r : Role) : Prop where
  shown : Text.trimmed r.id ≠ ""
  covered : ∃ s, roles.find? r.id = some s ∧ s.Covers r

theorem Grow.trans {later : Roles} (h : roles.Grow roles') (h' : roles'.Grow later) :
    roles.Grow later := by
  intro id r hr
  obtain ⟨s, hs, hgrows⟩ := h id r hr
  obtain ⟨t, ht, hgrows'⟩ := h' id s hs
  exact ⟨t, ht, hgrows.trans hgrows'⟩

theorem Grow.insert {id : String} {s : Role} (h : ∀ r, roles.find? id = some r → r.Grows s) :
    roles.Grow (roles.insert id s) := by
  intro k r hr
  by_cases hk : k = id
  · subst hk
    exact ⟨s, by simp, h r hr⟩
  · exact ⟨r, by simpa [hk] using hr, .refl r⟩

theorem Holds.grow (h : roles.Holds r) (hgrow : roles.Grow roles') : roles'.Holds r := by
  obtain ⟨s, hs, hcovers⟩ := h.covered
  obtain ⟨t, ht, hgrows⟩ := hgrow _ s hs
  exact ⟨h.shown, t, ht, hcovers.grows hgrows⟩

namespace IsHierarchy

theorem joined_id (h : roles.IsHierarchy) (r : Role) : (roles.joined r).id = r.id := by
  unfold joined
  cases hfind : roles.find? r.id with
  | none => rfl
  | some stored => exact h.ownId r.id stored hfind

theorem place_joined_of_stored (h : roles.IsHierarchy) {stored : Role}
    (hfind : roles.find? r.id = some stored) (now : Time) :
    roles.place (roles.joined r) now =
      roles.insert r.id { stored.absorb r with updatedAt := now } := by
  have hjoined : roles.joined r = stored.absorb r := by
    rw [joined, hfind]
  have hid : stored.id = r.id := h.ownId r.id stored hfind
  have hstored : roles.find? (stored.absorb r).id = some stored := by
    rw [show (stored.absorb r).id = r.id from hid, hfind]
  rw [hjoined, place, hstored]
  exact congrArg (fun id => roles.insert id _) hid

theorem place_joined_of_new (hfind : roles.find? r.id = none) (now : Time) :
    roles.place (roles.joined r) now = roles.insert r.id r := by
  have hjoined : roles.joined r = r := by
    rw [joined, hfind]
  rw [hjoined, place, hfind]

/-- One role of a list: the stored roles grow, and then hold what it brings. -/
theorem grow_add_joined (h : roles.IsHierarchy) (hadd : roles.add (roles.joined r) now = .ok roles') :
    roles.Grow roles' ∧ roles'.Holds r := by
  obtain ⟨hfault, rfl⟩ := add_eq_ok_iff.mp hadd
  have hshown : Text.trimmed r.id ≠ "" := h.joined_id r ▸ (fault?_eq_none_iff.mp hfault).1
  cases hfind : roles.find? r.id with
  | none =>
    rw [place_joined_of_new hfind]
    exact ⟨.insert (by simp [hfind]), hshown, r, by simp, .refl r⟩
  | some stored =>
    rw [h.place_joined_of_stored hfind]
    have hgrows := stored.grows_absorb r
    have hcovers := stored.covers_absorb r
    refine ⟨.insert fun old hold => ?_, hshown, { stored.absorb r with updatedAt := now }, by simp,
      ⟨hcovers.parents, hcovers.permissions⟩⟩
    cases hfind.symm.trans hold
    exact ⟨hgrows.id, hgrows.name, hgrows.level, hgrows.active, hgrows.createdAt, hgrows.parents,
      hgrows.permissions⟩

theorem grow_addAll (h : roles.IsHierarchy) (hadd : roles.addAll now incoming = .ok roles') :
    roles.Grow roles' ∧ ∀ r ∈ incoming, roles'.Holds r := by
  induction incoming generalizing roles with
  | nil =>
    cases hadd
    exact ⟨fun id r hr => ⟨r, hr, .refl r⟩, by simp⟩
  | cons r rest ih =>
    obtain ⟨mid, hmid, hrest⟩ := addAll_cons_eq_ok_iff.mp hadd
    obtain ⟨hgrow, hholds⟩ := h.grow_add_joined hmid
    obtain ⟨hlater, hall⟩ := ih (h.add hmid) hrest
    refine ⟨hgrow.trans hlater, fun x hx => ?_⟩
    rcases List.mem_cons.mp hx with rfl | hx
    · exact hholds.grow hlater
    · exact hall x hx

/-! ### Storing again -/

/-- A stored role can be stored again as it is. -/
theorem fault?_of_stored (h : roles.IsHierarchy) {id : String} {s : Role}
    (hs : roles.find? id = some s) (hshown : Text.trimmed id ≠ "") : roles.fault? s = none := by
  have hown : s.id = id := h.ownId id s hs
  have hparent : ∀ p ∈ s.parents, roles.Parent s.id p := fun p hp => ⟨s, hown ▸ hs, hp⟩
  refine fault?_eq_none_iff.mpr ⟨hown ▸ hshown, fun p hp => ⟨?_, ?_⟩, fun p hp hpath => ?_⟩
  · rintro rfl
    exact h.acyclic _ (.single (hparent _ hp))
  · exact h.parentStored _ p (hparent p hp)
  · exact h.acyclic _ (.head' (hparent p hp) hpath)

/-- A role that brings nothing new is stored again, and only the time of the last change moves. -/
theorem add_joined_of_holds (h : roles.IsHierarchy) (hholds : roles.Holds r) (now : Time) :
    ∃ s, roles.find? r.id = some s ∧
      roles.add (roles.joined r) now = .ok (roles.insert r.id { s with updatedAt := now }) := by
  obtain ⟨s, hs, hcovers⟩ := hholds.covered
  have hjoined : roles.joined r = s := by
    rw [joined, hs]
    exact hcovers.absorb_eq
  refine ⟨s, hs, add_eq_ok_iff.mpr ⟨?_, ?_⟩⟩
  · rw [hjoined]
    exact h.fault?_of_stored hs hholds.shown
  · rw [h.place_joined_of_stored hs, hcovers.absorb_eq]

/-- A list that brings nothing new is stored again, and only times of last changes move. -/
theorem addAll_of_holds (h : roles.IsHierarchy) (hholds : ∀ r ∈ incoming, roles.Holds r)
    (now : Time) :
    ∃ roles', roles.addAll now incoming = .ok roles' ∧ roles'.undated = roles.undated := by
  induction incoming generalizing roles with
  | nil => exact ⟨roles, rfl, rfl⟩
  | cons r rest ih =>
    obtain ⟨s, hs, hadd⟩ := h.add_joined_of_holds (hholds r List.mem_cons_self) now
    have hgrow := (h.grow_add_joined hadd).1
    obtain ⟨roles', hrest, hsame⟩ :=
      ih (h.add hadd) fun x hx => (hholds x (List.mem_cons_of_mem _ hx)).grow hgrow
    refine ⟨roles', addAll_cons_eq_ok_iff.mpr ⟨_, hadd, hrest⟩, hsame.trans ?_⟩
    have hstored : roles.undated.find? r.id = some s.undated := by
      rw [undated, Dict.find?_mapValues, hs, Option.map_some]
    exact (Dict.mapValues_insert _ _ _ _).trans (Dict.insert_of_find? hstored)

end IsHierarchy

end Roles

end TagAtlas
