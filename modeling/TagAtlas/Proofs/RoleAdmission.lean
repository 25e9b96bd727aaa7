import TagAtlas.Proofs.AccessConsistency
import TagAtlas.Proofs.TextParts

/-!
# The roles that may be stored

The test of a role follows the parents that are stored before it, those of an earlier definition of
the role among them. It refuses just the roles that would be among their own ancestors afterwards:
a path that leads to the role is cut at its first visit there, and up to it the earlier and the new
parents agree.
-/

namespace TagAtlas

open Relation

namespace Roles

/-- The parent relation once a role has some parents, in place of those that it had. -/
def Reparented (roles : Roles) (id : String) (parents : List String) (a b : String) : Prop :=
  if a = id then b ∈ parents else roles.Parent a b

variable {roles : Roles} {r : Role} {id a : String} {parents : List String} {now : Time}

theorem parent_insert_eq (roles : Roles) (id : String) (r : Role) :
    Parent (roles.insert id r) = roles.Reparented id r.parents := by
  funext a b
  unfold Reparented
  split
  next h => rw [h, parent_insert_self]
  next h => rw [parent_insert_of_ne h]

/-- The parents that a path to the role uses before it gets there are no others than before. -/
theorem reaches_reparented (h : ReflTransGen roles.Parent a id) :
    ReflTransGen (roles.Reparented id parents) a id := by
  induction h using ReflTransGen.head_induction_on with
  | refl => exact .refl
  | @head a b hab _ ih =>
    by_cases ha : a = id
    · exact ha ▸ .refl
    · have hstep : roles.Reparented id parents a b := by
        rw [Reparented, if_neg ha]
        exact hab
      exact .head hstep ih

/-- New parents close a cycle just when one of them leads to the role. -/
theorem acyclic_reparented_iff (h : roles.Acyclic) :
    (∀ a, ¬ TransGen (roles.Reparented r.id r.parents) a a) ↔
      ∀ p ∈ r.parents, ¬ ReflTransGen roles.Parent p r.id := by
  constructor
  · intro hacyclic p hp hpath
    have hstep : roles.Reparented r.id r.parents r.id p := by
      rw [Reparented, if_pos rfl]
      exact hp
    exact hacyclic r.id (.head' hstep (reaches_reparented hpath))
  · intro hfree
    rw [← parent_insert_eq]
    exact h.insert hfree

theorem find?_place_of_ne (h : a ≠ r.id) : (roles.place r now).find? a = roles.find? a := by
  obtain ⟨s, hs, -⟩ := exists_place_eq roles r now
  rw [hs, Dict.find?_insert, if_neg h]

/-- A role may be stored: its id is not blank, its parents are other roles that are stored, and with
these parents no role is among its own ancestors. -/
structure Admits (roles : Roles) (r : Role) : Prop where
  shown : ∃ c ∈ r.id.toList, Text.isBlank c = false
  parents : ∀ p ∈ r.parents, roles.contains p = true ∧ p ≠ r.id
  acyclic : ∀ a, ¬ TransGen (roles.Reparented r.id r.parents) a a

theorem fault?_eq_none_iff_admits (h : roles.Acyclic) : roles.fault? r = none ↔ roles.Admits r := by
  have hshown : Text.trimmed r.id ≠ "" ↔ ∃ c ∈ r.id.toList, Text.isBlank c = false := by
    simp only [ne_eq, Text.trimmed_eq_empty_iff, not_forall, Bool.not_eq_true, exists_prop]
  rw [fault?_eq_none_iff, hshown]
  constructor
  · rintro ⟨hid, hparents, hfree⟩
    exact ⟨hid, fun p hp => (hparents p hp).symm, (acyclic_reparented_iff h).mpr hfree⟩
  · rintro ⟨hid, hparents, hacyclic⟩
    exact ⟨hid, fun p hp => (hparents p hp).symm, (acyclic_reparented_iff h).mp hacyclic⟩

end Roles

namespace AccessCore

variable {c : AccessCore} {r : Role} {now : Time}

theorem addRole_eq_ok_iff :
    (c.addRole r now).1 = .ok () ↔ c.roles.fault? r = none := by
  unfold addRole Roles.add
  cases c.roles.fault? r <;> simp

theorem roles_addRole (h : c.roles.fault? r = none) :
    (c.addRole r now).2.roles = c.roles.place r now := by
  rw [addRole, Roles.add_eq_ok_iff.mpr ⟨h, rfl⟩]
  rfl

/-- What storing a role does. One that replaces another keeps its state and the time of its
creation, and is stamped with the time of the call. -/
structure StoresRole (c : AccessCore) (r : Role) (now : Time) : Prop where
  accepted_iff : (c.addRole r now).1 = .ok () ↔ c.roles.Admits r
  new : (c.addRole r now).1 = .ok () → c.roles.find? r.id = none →
    (c.addRole r now).2.roles.find? r.id = some r
  replaced : (c.addRole r now).1 = .ok () → ∀ old, c.roles.find? r.id = some old →
    (c.addRole r now).2.roles.find? r.id =
      some { r with active := old.active, createdAt := old.createdAt, updatedAt := now }
  others : (c.addRole r now).1 = .ok () → ∀ id ≠ r.id,
    (c.addRole r now).2.roles.find? id = c.roles.find? id

theorem storesRole_of_reachable (h : c.Reachable) (r : Role) (now : Time) : c.StoresRole r now where
  accepted_iff := by
    rw [addRole_eq_ok_iff, Roles.fault?_eq_none_iff_admits h.consistent.hierarchy.acyclic]
  new hok hnone := by
    rw [roles_addRole (addRole_eq_ok_iff.mp hok), Roles.place, hnone, Dict.find?_insert, if_pos rfl]
  replaced hok old hold := by
    rw [roles_addRole (addRole_eq_ok_iff.mp hok), Roles.place, hold, Dict.find?_insert, if_pos rfl]
  others hok id hid := by
    rw [roles_addRole (addRole_eq_ok_iff.mp hok), Roles.find?_place_of_ne hid]

/-- A role may turn around an edge that its earlier definition had. -/
theorem storesRole_turned_edge :
    let role (id : String) (parents : List String) : Role :=
      { Role.new id 50 0 with parents := parents }
    let c := ((initial .standard 0).run [
      (.addRole (role "lead" ["user"]), 1),
      (.addRole (role "staff" ["lead", "guest"]), 2),
      (.addRole (role "staff" ["guest"]), 3)]).2
    c.Reachable ∧ (c.addRole (role "lead" ["staff"]) 4).1 = .ok () ∧
      c.StoresRole (role "lead" ["staff"]) 4 := by
  intro role c
  have hreach : c.Reachable := .run (.new (new_eq_ok_iff.mpr ⟨rfl, rfl⟩)) _
  refine ⟨hreach, ?_, storesRole_of_reachable hreach _ _⟩
  unfold c role
  cbv

/-- A role that replaces another is not the given one with the state and the time of creation of the
other: the call stamps it. -/
theorem replacing_role_is_stamped :
    let c := ((initial .standard 0).run [(.addRole (Role.new "lead" 1 5), 6)]).2
    let r := Role.new "lead" 2 7
    c.Reachable ∧ (c.addRole r 8).1 = .ok () ∧ ∃ old, c.roles.find? r.id = some old ∧
      (c.addRole r 8).2.roles.find? r.id ≠
        some { r with active := old.active, createdAt := old.createdAt } := by
  intro c r
  have hreach : c.Reachable := .run (.new (new_eq_ok_iff.mpr ⟨rfl, rfl⟩)) _
  have hok : (c.addRole r 8).1 = .ok () := by unfold c r; cbv
  have hold : c.roles.find? r.id = some (Role.new "lead" 1 5) := by unfold c r; cbv
  have hnew : ((c.addRole r 8).2.roles.find? r.id).map Role.updatedAt = some 8 := by
    unfold c r
    cbv
  refine ⟨hreach, hok, _, hold, fun hsame => ?_⟩
  rw [hsame, Option.map_some] at hnew
  exact absurd hnew (by decide)

end AccessCore

end TagAtlas
