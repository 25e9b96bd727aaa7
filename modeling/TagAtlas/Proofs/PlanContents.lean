import TagAtlas.Proofs.PlanEnlargement

/-!
# What a plan lists

The required modules are the least set that has the names of the request and all that its modules
need. Conflicts and options are read off them: since the required modules are listed in increasing
order, each pair of them is looked at once, the smaller name first, and the pairs come in
lexicographic order.
-/

namespace TagAtlas

/-- By the first name, then by the second one. -/
def Conflict.Before (c d : Conflict) : Prop :=
  Prod.Lex (· < ·) (· < ·) (c.first, c.second) (d.first, d.second)

namespace RuleTable

variable {rules : RuleTable} {a b : String}

def ListsExcluded (rules : RuleTable) (a b : String) : Prop :=
  ∃ ids, rules.excludes.find? a = some ids ∧ b ∈ ids

theorem areExclusive_iff :
    rules.areExclusive a b = true ↔ rules.ListsExcluded a b ∨ rules.ListsExcluded b a := by
  have hlists : ∀ x y, ((rules.excludes.find? x).getD []).contains y = true ↔
      rules.ListsExcluded x y := by
    intro x y
    cases h : rules.excludes.find? x <;> simp [ListsExcluded, h]
  rw [areExclusive, Bool.or_eq_true, hlists, hlists]

end RuleTable

namespace Plan

open Relation InstallOrder

variable {rules : RuleTable} {names required : List String} {plan : Plan} {m o : String}

/-! ### Required modules -/

/-- A set has the names of a request, and with each module all that it needs. -/
structure Serves (rules : RuleTable) (names : List String) (s : Set String) : Prop where
  named : ∀ n ∈ names, Text.trimmed n ≠ "" → Text.trimmed n ∈ s
  closed : ∀ m ∈ s, ∀ d ∈ rules.needsOf m, d ∈ s

theorem serves_requires (rules : RuleTable) (names : List String) :
    Serves rules names {m | Requires rules names m} where
  named n hn hne := ⟨n, hn, hne, .refl⟩
  closed m hm d hd := by
    obtain ⟨n, hn, hne, hpath⟩ := hm
    exact ⟨n, hn, hne, hpath.tail hd⟩

theorem Serves.mem_of_requires {s : Set String} (h : Serves rules names s)
    (hm : Requires rules names m) : m ∈ s := by
  obtain ⟨n, hn, hne, hpath⟩ := hm
  induction hpath with
  | refl => exact h.named n hn hne
  | @tail b d _ hneed ih => exact h.closed b ih d hneed

/-! ### Conflicts -/

theorem mem_conflictsOf_iff (hsorted : required.Pairwise (· < ·)) {a b : String} :
    ⟨a, b⟩ ∈ conflictsOf rules required ↔
      a ∈ required ∧ b ∈ required ∧ a < b ∧ rules.areExclusive a b = true := by
  induction required with
  | nil => simp [conflictsOf]
  | cons m rest ih =>
    obtain ⟨hleast, hrest⟩ := List.pairwise_cons.mp hsorted
    have hhead : ⟨a, b⟩ ∈ (rest.filter fun b => rules.areExclusive m b).map (Conflict.mk m) ↔
        a = m ∧ b ∈ rest ∧ rules.areExclusive a b = true := by
      simp only [List.mem_map, List.mem_filter, Conflict.mk.injEq]
      constructor
      · rintro ⟨b, ⟨hb, hexclusive⟩, rfl, rfl⟩
        exact ⟨rfl, hb, hexclusive⟩
      · rintro ⟨rfl, hb, hexclusive⟩
        exact ⟨b, ⟨hb, hexclusive⟩, rfl, rfl⟩
    rw [conflictsOf, List.mem_append, hhead, ih hrest]
    constructor
    · rintro (⟨rfl, hb, hexclusive⟩ | ⟨ha, hb, hlt, hexclusive⟩)
      · exact ⟨List.mem_cons_self, List.mem_cons_of_mem _ hb, hleast b hb, hexclusive⟩
      · exact ⟨List.mem_cons_of_mem _ ha, List.mem_cons_of_mem _ hb, hlt, hexclusive⟩
    · rintro ⟨ha, hb, hlt, hexclusive⟩
      -- the larger name is not the least one, which stands first
      have hlater : b ∈ rest := by
        refine (List.mem_cons.mp hb).resolve_left ?_
        rintro rfl
        rcases List.mem_cons.mp ha with rfl | ha
        · exact String.lt_irrefl _ hlt
        · exact String.lt_irrefl _ (String.lt_trans hlt (hleast a ha))
      rcases List.mem_cons.mp ha with rfl | ha
      · exact .inl ⟨rfl, hlater, hexclusive⟩
      · exact .inr ⟨ha, hlater, hlt, hexclusive⟩

theorem conflictsOf_pairwise (rules : RuleTable) (hsorted : required.Pairwise (· < ·)) :
    (conflictsOf rules required).Pairwise Conflict.Before := by
  induction required with
  | nil => exact .nil
  | cons a rest ih =>
    obtain ⟨hleast, hrest⟩ := List.pairwise_cons.mp hsorted
    refine List.pairwise_append.mpr ⟨?_, ih hrest, ?_⟩
    · exact List.pairwise_map.mpr ((hrest.filter _).imp fun hlt => .right _ hlt)
    · intro c hc d hd
      obtain ⟨b, -, rfl⟩ := List.mem_map.mp hc
      exact .left _ _ (hleast _ ((mem_conflictsOf_iff hrest).mp hd).1)

/-! ### Options -/

theorem mem_optionalOf_iff : o ∈ optionalOf rules required ↔
    (∃ m ∈ required, ∃ ids, rules.optional.find? m = some ids ∧ o ∈ ids) ∧ o ∉ required := by
  have hlisted : ∀ x, o ∈ (rules.optional.find? x).getD [] ↔
      ∃ ids, rules.optional.find? x = some ids ∧ o ∈ ids := by
    intro x
    cases h : rules.optional.find? x <;> simp
  simp [optionalOf, hlisted]

theorem optional_of_resolve (h : resolve rules names = .ok plan) :
    plan.optional = optionalOf rules plan.required := by
  simp only [resolve, orderOf_eq] at h
  split at h
  next => cases h; rfl
  next => cases h

structure IsListed (rules : RuleTable) (names : List String) (plan : Plan) : Prop where
  required : IsLeast {s | Serves rules names s} {m | m ∈ plan.required}
  requiredIncreasing : plan.required.Pairwise (· < ·)
  mem_conflicts_iff : ∀ c, c ∈ plan.conflicts ↔ c.first ∈ plan.required ∧
    c.second ∈ plan.required ∧ c.first < c.second ∧
    (rules.ListsExcluded c.first c.second ∨ rules.ListsExcluded c.second c.first)
  conflictsIncreasing : plan.conflicts.Pairwise Conflict.Before
  mem_optional_iff : ∀ o, o ∈ plan.optional ↔
    (∃ m ∈ plan.required, ∃ ids, rules.optional.find? m = some ids ∧ o ∈ ids) ∧
      o ∉ plan.required
  optionalIncreasing : plan.optional.Pairwise (· < ·)

theorem isListed_of_resolve (h : resolve rules names = .ok plan) : IsListed rules names plan := by
  have hrequired := (resolve_eq_ok h).1
  have hsorted : plan.required.Pairwise (· < ·) := hrequired ▸ Dict.sortedSet_pairwise _
  have hset : {m | m ∈ plan.required} = {m | Requires rules names m} :=
    Set.ext fun m => hrequired ▸ mem_closure_requestedNames_iff
  constructor
  case required =>
    rw [hset]
    exact ⟨serves_requires rules names, fun s hs m hm => hs.mem_of_requires hm⟩
  case requiredIncreasing => exact hsorted
  case mem_conflicts_iff =>
    intro c
    rw [conflicts_of_resolve h, ← RuleTable.areExclusive_iff]
    exact mem_conflictsOf_iff hsorted
  case conflictsIncreasing => exact conflicts_of_resolve h ▸ conflictsOf_pairwise rules hsorted
  case mem_optional_iff =>
    intro o
    rw [optional_of_resolve h, mem_optionalOf_iff]
  case optionalIncreasing => exact optional_of_resolve h ▸ Dict.sortedSet_pairwise _

/-- A need of itself, a pair that lists each other, a module that excludes itself, and options that
are repeated or required. -/
theorem isListed_of_mutual_exclusions :
    let rules : RuleTable := ⟨Dict.ofList [("app", ["log", "app", "log"]), ("log", ["store"])],
      Dict.ofList [("store", ["app", "store"]), ("app", ["store", "log", "mail"]),
        ("zoo", ["log"])],
      Dict.ofList [("app", ["mail", "log", "cache"]), ("zoo", ["cache", "mail"])]⟩
    ∃ plan, resolve rules ["zoo", " app ", ""] = .ok plan ∧
      plan.required = ["app", "log", "store", "zoo"] ∧
      plan.conflicts = [⟨"app", "log"⟩, ⟨"app", "store"⟩, ⟨"log", "zoo"⟩] ∧
      plan.optional = ["cache", "mail"] ∧ IsListed rules ["zoo", " app ", ""] plan := by
  intro rules
  have hresolve : ∃ plan, resolve rules ["zoo", " app ", ""] = .ok plan ∧
      plan.required = ["app", "log", "store", "zoo"] ∧
      plan.conflicts = [⟨"app", "log"⟩, ⟨"app", "store"⟩, ⟨"log", "zoo"⟩] ∧
      plan.optional = ["cache", "mail"] := ⟨_, by cbv, by cbv, by cbv, by cbv⟩
  obtain ⟨plan, hplan, hrequired, hconflicts, hoptional⟩ := hresolve
  exact ⟨plan, hplan, hrequired, hconflicts, hoptional, isListed_of_resolve hplan⟩

end Plan

end TagAtlas
