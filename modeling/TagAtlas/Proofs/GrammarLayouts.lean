import Mathlib.Data.List.Basic
import TagAtlas.Grammar.Basic

/-!
# Grammars in a row of cells

The cells of a layout spell the rules of its grammar. Each rule of a nonterminal begins at one of
the starts of the nonterminal, and from there its symbols come next up to the cell that says that
the rule is complete.
-/

namespace TagAtlas.Grammar

variable {N T : Type}

/-! ### Derivations -/

namespace Derives

variable {grammar : List (Rule N T)}

theorem append {a b : List (Symbol N T)} {ts us : List T} (h : Derives grammar a ts)
    (h' : Derives grammar b us) : Derives grammar (a ++ b) (ts ++ us) := by
  induction h with
  | nil => exact h'
  | terminal t _ ih => exact .terminal t ih
  | nonterminal mem body _ _ ih =>
    rw [List.append_assoc]
    exact .nonterminal mem body ih

theorem ofRule (head : N) {body : List (Symbol N T)} {ts : List T} (mem : ⟨head, body⟩ ∈ grammar)
    (h : Derives grammar body ts) : Derives grammar [.nonterminal head] ts := by
  simpa using nonterminal mem h .nil

theorem exists_rule {n : N} {ts : List T} (h : Derives grammar [.nonterminal n] ts) :
    ∃ r ∈ grammar, r.head = n ∧ Derives grammar r.body ts := by
  cases h with
  | @nonterminal r _ ts us mem body tail =>
    cases tail
    exact ⟨r, mem, rfl, by simpa using body⟩

/-- Each symbol derives a terminal at least. -/
theorem length_le (hbodies : ∀ r ∈ grammar, r.body ≠ []) {a : List (Symbol N T)} {ts : List T}
    (h : Derives grammar a ts) : a.length ≤ ts.length := by
  induction h with
  | nil => simp
  | terminal t _ ih => simpa using ih
  | @nonterminal r _ ts us mem _ _ ihbody ihtail =>
    have := List.length_pos_iff.mpr (hbodies r mem)
    simp only [List.length_cons, List.length_append]
    omega

end Derives

/-! ### Rules in a row of cells -/

/-- From a cell on some symbols come next, and then the rule of a head is complete. -/
def Layout.Reads (g : Layout N T) (head : N) : Nat → List (Symbol N T) → Prop
  | cell, [] => g.cells[cell]? = some (.complete head)
  | cell, s :: rest => g.cells[cell]? = some (.next s) ∧ g.Reads head (cell + 1) rest

namespace Layout.Reads

variable {g : Layout N T} {head : N} {cell : Nat}

theorem lt_size {rest : List (Symbol N T)} (h : g.Reads head cell rest) : cell < g.cells.size := by
  cases rest with
  | nil => exact (Array.getElem?_eq_some_iff.mp h).1
  | cons s rest => exact (Array.getElem?_eq_some_iff.mp h.1).1

theorem drop {read rest : List (Symbol N T)} (h : g.Reads head cell (read ++ rest)) :
    g.Reads head (cell + read.length) rest := by
  induction read generalizing cell with
  | nil => exact h
  | cons s read ih => simpa [Nat.add_assoc, Nat.add_comm 1] using ih h.2

theorem eq_nil_of_complete {rest : List (Symbol N T)} {n : N} (h : g.Reads head cell rest)
    (hcell : g.cells[cell]? = some (.complete n)) : rest = [] ∧ head = n := by
  cases rest with
  | nil => exact ⟨rfl, Cell.complete.inj (Option.some.inj (h.symm.trans hcell))⟩
  | cons s rest => simp [h.1] at hcell

theorem exists_cons_of_next {rest : List (Symbol N T)} {s : Symbol N T} (h : g.Reads head cell rest)
    (hcell : g.cells[cell]? = some (.next s)) :
    ∃ rest', rest = s :: rest' ∧ g.Reads head (cell + 1) rest' := by
  cases rest with
  | nil => simp [Layout.Reads, hcell] at h
  | cons s' rest =>
    obtain rfl : s' = s := Cell.next.inj (Option.some.inj (h.1.symm.trans hcell))
    exact ⟨rest, rfl, h.2⟩

end Layout.Reads

theorem getElem?_of_drop_eq_cons {α : Type} {l rest : List α} {a : α} {k : Nat}
    (h : l.drop k = a :: rest) : l[k]? = some a := by
  simpa [List.head?_drop] using congrArg List.head? h

theorem drop_succ_of_drop_eq_cons {α : Type} {l rest : List α} {a : α} {k : Nat}
    (h : l.drop k = a :: rest) : l.drop (k + 1) = rest := by
  simpa [List.tail_drop] using congrArg List.tail h

theorem reads_of_drop_eq {g : Layout N T} {head : N} {body : List (Symbol N T)} {cell : Nat}
    {after : List (Cell N T)}
    (h : g.cells.toList.drop cell = body.map .next ++ .complete head :: after) :
    g.Reads head cell body := by
  induction body generalizing cell with
  | nil => simpa [Layout.Reads] using getElem?_of_drop_eq_cons h
  | cons s body ih =>
    exact ⟨by simpa using getElem?_of_drop_eq_cons h, ih (drop_succ_of_drop_eq_cons h)⟩

variable [DecidableEq N]

theorem mem_startsFrom_iff {grammar : List (Rule N T)} {position : Nat} {n : N} {s : Nat} :
    (n, s) ∈ startsFrom position grammar ↔ ∃ before r after, grammar = before ++ r :: after ∧
      r.head = n ∧ s = position + (before.flatMap Rule.cells).length := by
  induction grammar generalizing position with
  | nil => simp [startsFrom]
  | cons r rest ih =>
    have hcells : r.cells.length = r.body.length + 1 := by simp [Rule.cells]
    rw [startsFrom, List.mem_cons, ih]
    constructor
    · rintro (h | ⟨before, r', after, rfl, hhead, rfl⟩)
      · obtain ⟨rfl, rfl⟩ := Prod.mk.inj h
        exact ⟨[], r, rest, rfl, rfl, by simp⟩
      · refine ⟨r :: before, r', after, rfl, hhead, ?_⟩
        simp only [List.flatMap_cons, List.length_append, hcells]
        omega
    · rintro ⟨before, r', after, hsplit, rfl, rfl⟩
      cases before with
      | nil =>
        obtain ⟨rfl, rfl⟩ := List.cons.inj hsplit
        exact .inl (by simp)
      | cons r'' before =>
        obtain ⟨rfl, rfl⟩ := List.cons.inj hsplit
        refine .inr ⟨before, r', after, rfl, rfl, ?_⟩
        simp only [List.flatMap_cons, List.length_append, hcells]
        omega

variable {grammar : List (Rule N T)} {heads : List N}

theorem mem_starts_layout_iff (hheads : ∀ r ∈ grammar, r.head ∈ heads) {n : N} {s : Nat} :
    s ∈ (layout grammar heads).starts n ↔ (n, s) ∈ startsFrom 0 grammar := by
  by_cases hn : n ∈ heads
  · simp [layout, List.lookup_graph _ hn]
  · have hnone : (n, s) ∉ startsFrom 0 grammar := fun h => by
      obtain ⟨before, r, after, rfl, rfl, -⟩ := mem_startsFrom_iff.mp h
      exact hn (hheads r (by simp))
    have hne : ∀ m ∈ heads, ¬n = m := fun m hm h => hn (h ▸ hm)
    have hlookup : ∀ f : N → List Nat, (heads.map fun m => (m, f m)).lookup n = none := by
      simpa [List.lookup_eq_none_iff] using hne
    simp [layout, hlookup, hnone]

theorem reads_layout (before : List (Rule N T)) (r : Rule N T) (after : List (Rule N T)) :
    (layout (before ++ r :: after) heads).Reads r.head (before.flatMap Rule.cells).length
      r.body := by
  have hdrop : (layout (before ++ r :: after) heads).cells.toList.drop
      (before.flatMap Rule.cells).length =
        r.body.map .next ++ .complete r.head :: after.flatMap Rule.cells := by
    simp [layout, Rule.cells]
  exact reads_of_drop_eq hdrop

/-- The starts of a nonterminal are where its rules begin. -/
structure Layout.Spells (g : Layout N T) (grammar : List (Rule N T)) : Prop where
  sound : ∀ n, ∀ s ∈ g.starts n, ∃ r ∈ grammar, r.head = n ∧ g.Reads n s r.body
  complete : ∀ r ∈ grammar, ∃ s ∈ g.starts r.head, g.Reads r.head s r.body

/-- A grammar is laid out completely when all of its heads are given. -/
theorem spells_layout (hheads : ∀ r ∈ grammar, r.head ∈ heads) :
    (layout grammar heads).Spells grammar where
  sound n s hs := by
    obtain ⟨before, r, after, rfl, rfl, rfl⟩ := mem_startsFrom_iff.mp
      ((mem_starts_layout_iff hheads).mp hs)
    exact ⟨r, by simp, rfl, by simpa using reads_layout before r after⟩
  complete r hr := by
    obtain ⟨before, after, rfl⟩ := List.append_of_mem hr
    have hmem : (r.head, 0 + (before.flatMap Rule.cells).length) ∈
        startsFrom 0 (before ++ r :: after) :=
      mem_startsFrom_iff.mpr ⟨before, r, after, rfl, rfl, rfl⟩
    exact ⟨_, (mem_starts_layout_iff hheads).mpr hmem, by simpa using reads_layout before r after⟩

end TagAtlas.Grammar
