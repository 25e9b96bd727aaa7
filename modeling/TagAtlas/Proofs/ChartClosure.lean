import Mathlib.Data.Finset.Card
import Mathlib.Data.Finset.Prod
import TagAtlas.Grammar.Chart

/-!
# Closed positions of a chart

Closing a position takes one item after another from the work, and every item becomes work once.
There are fewer items than steps, so no work is left, and the items have all their consequences.
-/

namespace TagAtlas.Grammar

variable {N T : Type} [DecidableEq N] {g : Layout N T} {chart : Chart}

/-! ### Adding items -/

/-- The items of a position: those that are dealt with and those that are still work. -/
structure Closing.Splits (c : Closing) (done work : List Item) : Prop where
  mem_seen : ∀ i, i ∈ c.seen ↔ i ∈ c.items
  nodup : c.items.Nodup
  perm : c.items.Perm (done ++ work)

namespace Closing.Splits

variable {c : Closing} {done work : List Item} {i j : Item}

theorem empty : Splits ⟨[], {}⟩ [] [] := ⟨by simp, by simp, by simp⟩

theorem add (h : c.Splits done work) (i : Item) :
    (c.add work i).1.Splits done (c.add work i).2 ∧
      ∀ j, j ∈ (c.add work i).1.items ↔ j = i ∨ j ∈ c.items := by
  unfold Closing.add
  split
  next hseen =>
    have hi : i ∈ c.items := (h.mem_seen i).mp hseen
    refine ⟨h, fun j => ⟨.inr, ?_⟩⟩
    rintro (rfl | hj)
    · exact hi
    · exact hj
  next hseen =>
    have hi : i ∉ c.items := mt (h.mem_seen i).mpr hseen
    refine ⟨⟨fun j => ?_, h.nodup.cons hi, ?_⟩, fun j => List.mem_cons⟩
    · rw [Std.HashSet.mem_insert, List.mem_cons, h.mem_seen, beq_iff_eq, eq_comm]
    · exact (h.perm.cons i).trans List.perm_middle.symm

theorem addAll (h : c.Splits done work) (is : List Item) :
    (c.addAll work is).1.Splits done (c.addAll work is).2 ∧
      ∀ j, j ∈ (c.addAll work is).1.items ↔ j ∈ is ∨ j ∈ c.items := by
  induction is generalizing c work with
  | nil => exact ⟨h, by simp [Closing.addAll]⟩
  | cons i is ih =>
    obtain ⟨hone, hmem⟩ := h.add i
    obtain ⟨hall, hmems⟩ := ih hone
    refine ⟨hall, fun j => (hmems j).trans ?_⟩
    rw [hmem, List.mem_cons]
    tauto

theorem take (h : c.Splits done (i :: work)) : c.Splits (i :: done) work :=
  ⟨h.mem_seen, h.nodup, h.perm.trans List.perm_middle⟩

theorem length_eq (h : c.Splits done work) : c.items.length = done.length + work.length := by
  simpa using h.perm.length_eq

end Closing.Splits

/-! ### Closed positions -/

/-- Some items with all that follows from them at their position. -/
structure IsClosed (g : Layout N T) (chart : Chart) (first items : List Item) : Prop where
  subset : ∀ i ∈ first, i ∈ items
  closed : ∀ i ∈ items, ∀ j ∈ consequences g chart i, j ∈ items

/-- A position that is being closed: what is dealt with has its consequences, and all items satisfy
a property. -/
structure Closing.Underway (g : Layout N T) (chart : Chart) (p : Item → Prop) (c : Closing)
    (done work : List Item) : Prop extends c.Splits done work where
  dealt : ∀ i ∈ done, ∀ j ∈ consequences g chart i, j ∈ c.items
  kept : ∀ i ∈ c.items, p i

namespace Closing.Underway

variable {p : Item → Prop} {c : Closing} {done work : List Item} {i : Item}

theorem isClosed (h : c.Underway g chart p done []) : IsClosed g chart c.items c.items := by
  refine ⟨fun _ => id, fun i hi => h.dealt i ?_⟩
  simpa using h.perm.mem_iff.mp hi

theorem step (hp : ∀ i, p i → ∀ j ∈ consequences g chart i, p j)
    (h : c.Underway g chart p done (i :: work)) :
    (c.addAll work (consequences g chart i)).1.Underway g chart p (i :: done)
      (c.addAll work (consequences g chart i)).2 := by
  obtain ⟨hadd, hmem⟩ := h.take.addAll (consequences g chart i)
  have hi : p i := h.kept i (h.perm.mem_iff.mpr (by simp))
  refine ⟨hadd, fun k hk j hj => (hmem j).mpr ?_, fun j hj => ?_⟩
  · rcases List.mem_cons.mp hk with rfl | hk
    · exact .inl hj
    · exact .inr (h.dealt k hk j hj)
  · exact ((hmem j).mp hj).elim (hp i hi j) (h.kept j)

/-- No work is left at the end when there cannot be more items than steps. -/
theorem close_spec (hp : ∀ i, p i → ∀ j ∈ consequences g chart i, p j) {limit : Nat}
    (h : c.Underway g chart p done work)
    (hfew : ∀ l : List Item, l.Nodup → (∀ i ∈ l, p i) → l.length ≤ done.length + limit) :
    IsClosed g chart c.items (close g chart limit c work) ∧
      ∀ i ∈ close g chart limit c work, p i := by
  induction limit generalizing c done work with
  | zero =>
    -- As many items are dealt with as there can be at all.
    have hlength := h.length_eq
    have hle := hfew c.items h.nodup h.kept
    obtain rfl : work = [] := List.eq_nil_of_length_eq_zero (by omega)
    exact ⟨h.isClosed, h.kept⟩
  | succ limit ih =>
    cases work with
    | nil => exact ⟨h.isClosed, h.kept⟩
    | cons i work =>
      obtain ⟨hrest, hkept⟩ := ih (h.step hp) fun l hl hpl => by
        have := hfew l hl hpl
        simp only [List.length_cons]
        omega
      have hmem := (h.take.addAll (consequences g chart i)).2
      exact ⟨⟨fun j hj => hrest.subset j ((hmem j).mpr (.inr hj)), hrest.closed⟩, hkept⟩

end Closing.Underway

/-- There are not more items than pairs of a cell and a position. -/
theorem length_le_of_bounded {cells size : Nat} {l : List Item} (hl : l.Nodup)
    (hbound : ∀ i ∈ l, i.cell < cells ∧ i.origin ≤ size) : l.length ≤ cells * (size + 1) := by
  have hpairs : (l.map fun i => (i.cell, i.origin)).Nodup := by
    refine hl.map fun i j hij => ?_
    cases i
    cases j
    simpa using hij
  have hsub : (l.map fun i => (i.cell, i.origin)).toFinset ⊆
      Finset.range cells ×ˢ Finset.range (size + 1) := by
    intro pair hpair
    obtain ⟨i, hi, rfl⟩ := List.mem_map.mp (List.mem_toFinset.mp hpair)
    have := hbound i hi
    simp only [Finset.mem_product, Finset.mem_range]
    omega
  have hcard := Finset.card_le_card hsub
  rw [List.toFinset_card_of_nodup hpairs] at hcard
  simpa using hcard

/-- The items of a position are closed, and satisfy what the first ones do and consequences keep. -/
theorem closure_spec {first : List Item} {p : Item → Prop} (hfirst : ∀ i ∈ first, p i)
    (hp : ∀ i, p i → ∀ j ∈ consequences g chart i, p j)
    (hbound : ∀ i, p i → i.cell < g.cells.size ∧ i.origin ≤ chart.size) :
    IsClosed g chart first (closure g chart first) ∧ ∀ i ∈ closure g chart first, p i := by
  obtain ⟨hadd, hmem⟩ := Closing.Splits.empty.addAll first
  have hstart : Closing.Underway g chart p (Closing.addAll ⟨[], {}⟩ [] first).1 []
      (Closing.addAll ⟨[], {}⟩ [] first).2 :=
    ⟨hadd, by simp, fun j hj => ((hmem j).mp hj).elim (hfirst j) (by simp)⟩
  obtain ⟨hclosed, hkept⟩ := hstart.close_spec hp fun l hl hpl =>
    (length_le_of_bounded hl fun i hi => hbound i (hpl i hi)).trans (Nat.le_add_left _ _)
  exact ⟨⟨fun i hi => hclosed.subset i ((hmem i).mpr (.inl hi)), hclosed.closed⟩, hkept⟩

@[simp] theorem closure_nil (g : Layout N T) (chart : Chart) : closure g chart [] = [] := by
  unfold closure Closing.addAll
  cases g.cells.size * (chart.size + 1) <;> simp [close]

end TagAtlas.Grammar
