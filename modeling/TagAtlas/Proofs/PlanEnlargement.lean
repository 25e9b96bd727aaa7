import TagAtlas.Proofs.PlanCycles

/-!
# Requests that ask for more

What a module waits for, and so its place among others, does not depend on the request that led to
it. So the plan of a request is found in the plan of every larger request, with its modules in the
same order, and requests for the same names have the same plan.
-/

namespace TagAtlas.Plan

open Relation InstallOrder

variable {rules : RuleTable} {names names' required required' : List String} {plan plan' : Plan}
  {m a b : String}

/-- Every name of a request, without blanks around it, is one of another request. -/
def Within (names names' : List String) : Prop :=
  ∀ n ∈ names, Text.trimmed n ≠ "" → ∃ n' ∈ names', Text.trimmed n' = Text.trimmed n

theorem Requires.within (h : Requires rules names m) (hwithin : Within names names') :
    Requires rules names' m := by
  obtain ⟨n, hn, hne, hpath⟩ := h
  obtain ⟨n', hn', hsame⟩ := hwithin n hn hne
  exact ⟨n', hn', hsame ▸ hne, hsame ▸ hpath⟩

theorem closure_sublist (rules : RuleTable) (h : Within names names') :
    (closure rules.needs (requestedNames names)).Sublist
      (closure rules.needs (requestedNames names')) := by
  refine sublist_of_pairwise (Dict.sortedSet_pairwise _) (Dict.sortedSet_pairwise _) fun m hm => ?_
  exact mem_closure_requestedNames_iff.mpr ((mem_closure_requestedNames_iff.mp hm).within h)

theorem conflictsOf_sublist (rules : RuleTable) (h : required.Sublist required') :
    (conflictsOf rules required).Sublist (conflictsOf rules required') := by
  induction h with
  | slnil => exact .slnil
  | cons m _ ih => exact ih.trans (List.sublist_append_right _ _)
  | cons_cons m h ih => exact ((h.filter _).map _).append ih

/-- Fewer modules are stuck when fewer are required. -/
theorem stuckOf_eq_nil_of_within (h : Within names names')
    (hstuck : stuckOf rules (closure rules.needs (requestedNames names')) = []) :
    stuckOf rules (closure rules.needs (requestedNames names)) = [] := by
  by_contra hne
  obtain ⟨c, hc, hall⟩ := (stuckOf_ne_nil_iff (closure_nodup _ _) (closed_closure _ _)).mp hne
  have hne' := (stuckOf_ne_nil_iff (closure_nodup _ _) (closed_closure _ _)).mpr
    ⟨c, hc, fun x hx => (closure_sublist rules h).subset (hall x hx)⟩
  exact hne' hstuck

/-! ### The place of a module -/

/-- By the longest chain of needs below a module, then by name. -/
def Before (rules : RuleTable) (a b : String) : Prop :=
  ∃ i j, LongestChain rules.needs.ProperEdge a i ∧ LongestChain rules.needs.ProperEdge b j ∧
    (i < j ∨ i = j ∧ a < b)

instance Before.instAsymm (rules : RuleTable) : Std.Asymm (Before rules) where
  asymm a b := by
    rintro ⟨i, j, hi, hj, hlt⟩ ⟨j', i', hj', hi', hlt'⟩
    obtain rfl := hi.unique hi'
    obtain rfl := hj.unique hj'
    rcases hlt with hlt | ⟨rfl, hab⟩
    · omega
    · rcases hlt' with hlt' | ⟨_, hba⟩
      · omega
      · exact String.lt_irrefl _ (String.lt_trans hab hba)

theorem Solved.order_sublist (h : Solved rules plan) (h' : Solved rules plan')
    (hsub : plan.required ⊆ plan'.required) : plan.order.Sublist plan'.order := by
  have hincreasing : plan.order.Pairwise (Before rules) := h.increasing
  refine sublist_of_pairwise hincreasing h'.increasing fun m hm => ?_
  exact (h'.mem_order_iff m).mpr (hsub ((h.mem_order_iff m).mp hm))

/-! ### Plans within plans -/

theorem conflicts_of_resolve (h : resolve rules names = .ok plan) :
    plan.conflicts = conflictsOf rules plan.required := by
  simp only [resolve, orderOf_eq] at h
  split at h
  next => cases h; rfl
  next => cases h

structure PartOf (plan plan' : Plan) : Prop where
  required : plan.required.Sublist plan'.required
  order : plan.order.Sublist plan'.order
  conflicts : plan.conflicts.Sublist plan'.conflicts

/-- The plan of a request is part of the plan of each larger one. Only its wording is other when
the larger one has no more names. -/
theorem resolve_of_within (rules : RuleTable) (h : Within names names') :
    (∀ plan', resolve rules names' = .ok plan' →
      ∃ plan, resolve rules names = .ok plan ∧ plan.PartOf plan') ∧
    (Within names' names → resolve rules names' = (resolve rules names).map fun plan =>
      { plan with
        requested := requestedNames names'
        warnings := warningsOf rules (requestedNames names') plan.required }) := by
  constructor
  · intro plan' hplan'
    obtain ⟨hrequired', -, hstuck'⟩ := resolve_eq_ok hplan'
    obtain ⟨plan, hplan⟩ : ∃ plan, resolve rules names = .ok plan := by
      cases hresolve : resolve rules names with
      | ok plan => exact ⟨plan, rfl⟩
      | error f =>
        rw [hrequired'] at hstuck'
        exact absurd (stuckOf_eq_nil_of_within h hstuck') (resolve_eq_error_iff.mp hresolve).1
    have hrequired : plan.required.Sublist plan'.required := by
      rw [(resolve_eq_ok hplan).1, hrequired']
      exact closure_sublist rules h
    exact ⟨plan, hplan, {
      required := hrequired
      order := (solved_of_resolve hplan).order_sublist (solved_of_resolve hplan') hrequired.subset
      conflicts := by
        rw [conflicts_of_resolve hplan, conflicts_of_resolve hplan']
        exact conflictsOf_sublist rules hrequired }⟩
  · intro h'
    have hsame : closure rules.needs (requestedNames names) =
        closure rules.needs (requestedNames names') :=
      (closure_sublist rules h).antisymm (closure_sublist rules h')
    simp only [resolve, hsame]
    cases orderOf rules (closure rules.needs (requestedNames names')) <;> rfl

/-- A smaller request with other blanks, an unknown name and a repetition, and an excluded pair. -/
theorem resolve_of_within_shuffled_request :
    let rules : RuleTable := ⟨Dict.ofList [("app", ["store", "log"]), ("store", ["log"]),
      ("site", ["app"])], Dict.ofList [("log", ["zoo"])], .empty⟩
    let small := ["zoo", " app ", "", "zoo"]
    let large := ["site", "app", "zoo "]
    Within small large ∧ ∃ plan plan', resolve rules large = .ok plan' ∧
      plan'.order = ["log", "zoo", "store", "app", "site"] ∧
      resolve rules small = .ok plan ∧ plan.PartOf plan' := by
  intro rules small large
  have hwithin : Within small large := by
    unfold Within small large
    decide +kernel
  have hlarge : ∃ plan', resolve rules large = .ok plan' ∧
      plan'.order = ["log", "zoo", "store", "app", "site"] := ⟨_, by cbv, by cbv⟩
  obtain ⟨plan', hplan', horder⟩ := hlarge
  obtain ⟨plan, hplan, hpart⟩ := (resolve_of_within rules hwithin).1 plan' hplan'
  exact ⟨hwithin, plan, plan', hplan', horder, hplan, hpart⟩

end TagAtlas.Plan
