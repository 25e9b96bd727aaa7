import Mathlib.Data.List.Rotate
import TagAtlas.Proofs.GraphCycles

/-!
# Turns of a cycle

A cycle can be listed from each of its ids on. Its canonical form is the turn that begins with the
smallest id. As the ids are distinct there is one such turn only, so two cycles have the same
canonical form just when they are turns of each other.
-/

namespace TagAtlas.Cycles

variable {c d r : List String} {least : String}

theorem exists_append_of_isRotated (h : c ~r d) : ∃ l m, c = l ++ m ∧ d = m ++ l := by
  obtain ⟨n, rfl⟩ := h
  refine ⟨c.take (n % c.length), c.drop (n % c.length), (List.take_append_drop _ _).symm, ?_⟩
  exact List.rotate_eq_drop_append_take_mod

/-- Of the turns of a cycle, one begins with a given id. -/
theorem eq_of_isRotated (h : c ~r d) (hc : c.Nodup) (hhead : c.head? = d.head?) : c = d := by
  obtain ⟨l, m, rfl, rfl⟩ := exists_append_of_isRotated h
  cases l with
  | nil => rw [List.nil_append, List.append_nil]
  | cons x l =>
    cases m with
    | nil => rw [List.nil_append, List.append_nil]
    | cons y m =>
      obtain rfl : x = y := Option.some.inj hhead
      exact absurd List.mem_cons_self
        (List.disjoint_of_nodup_append hc (List.mem_cons_self (a := x)))

theorem canonical_isRotated (c : List String) : canonical c ~r c := by
  rcases eq_or_ne c [] with rfl | hne
  · exact .refl []
  · obtain ⟨l, m, _, rfl, hcanon, -⟩ := canonical_spec hne
    exact hcanon ▸ List.isRotated_append

/-- The canonical form begins with the smallest id. -/
theorem head?_canonical (c : List String) : (canonical c).head? = c.min? := by
  rcases eq_or_ne c [] with rfl | hne
  · rfl
  · obtain ⟨l, m, least, rfl, hcanon, hhead, hleast⟩ := canonical_spec hne
    have hmem : least ∈ l ++ m := List.mem_append_right l (List.mem_of_head? hhead)
    rw [hcanon, List.head?_append, hhead, Option.some_or, eq_comm]
    exact List.min?_eq_some_iff.mpr ⟨hmem, hleast⟩

/-- The smallest id is that of every turn. -/
theorem min?_eq_of_isRotated (h : c ~r d) : c.min? = d.min? := by
  refine Option.ext fun least => ?_
  rw [List.min?_eq_some_iff, List.min?_eq_some_iff]
  simp only [h.mem_iff]

theorem canonical_eq_canonical_iff (hc : c.Nodup) : canonical c = canonical d ↔ d ~r c := by
  constructor
  · intro hsame
    exact (canonical_isRotated d).symm.trans (hsame ▸ canonical_isRotated c)
  · intro hturn
    have hforms : canonical c ~r canonical d :=
      (canonical_isRotated c).trans (hturn.symm.trans (canonical_isRotated d).symm)
    have hdistinct : (canonical c).Nodup := (canonical_isRotated c).nodup_iff.mpr hc
    refine eq_of_isRotated hforms hdistinct ?_
    rw [head?_canonical, head?_canonical, min?_eq_of_isRotated hturn]

/-- A cycle that begins with its smallest id is the canonical form of each of its turns. -/
theorem canonical_eq_of_isRotated (hr : r ~r c) (hc : c.Nodup) (hhead : c.head? = some least)
    (hleast : ∀ id ∈ c, least ≤ id) : canonical r = c := by
  have hmin : c.min? = some least :=
    List.min?_eq_some_iff.mpr ⟨List.mem_of_head? hhead, hleast⟩
  have hturn : c ~r canonical r := hr.symm.trans (canonical_isRotated r).symm
  refine (eq_of_isRotated hturn hc ?_).symm
  rw [head?_canonical, min?_eq_of_isRotated hr, hmin, hhead]

/-- The canonical form of a cycle is the turn that begins with its smallest id, is canonical itself,
and is that of another cycle just when the other one is a turn of the first. -/
theorem identifiesTurns (hc : c.Nodup) :
    canonical c ~r c ∧ (canonical c).head? = c.min? ∧ canonical (canonical c) = canonical c ∧
      ∀ d, canonical c = canonical d ↔ d ~r c := by
  refine ⟨canonical_isRotated c, head?_canonical c, ?_, fun d => canonical_eq_canonical_iff hc⟩
  exact ((canonical_eq_canonical_iff hc).mpr (canonical_isRotated c)).symm

/-- The same ids the other way round make another cycle. -/
theorem identifiesTurns_of_three :
    ["b", "c", "a"].Nodup ∧ canonical ["b", "c", "a"] = canonical ["c", "a", "b"] ∧
      canonical ["b", "c", "a"] ≠ canonical ["c", "b", "a"] := by
  have hdistinct : ["b", "c", "a"].Nodup := by decide
  obtain ⟨-, -, -, hsame⟩ := identifiesTurns hdistinct
  refine ⟨hdistinct, (hsame _).mpr (by decide), fun heq => ?_⟩
  have hturn : ["c", "b", "a"] ~r ["b", "c", "a"] := (hsame _).mp heq
  revert hturn
  decide

end TagAtlas.Cycles
