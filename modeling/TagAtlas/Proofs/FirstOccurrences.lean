import Mathlib.Data.List.Induction
import Mathlib.Data.List.Nodup

/-!
# Lists that are collected entry by entry

Many lists are made by going through some items and putting an entry at the end for each item whose
key is not there. Such a list has every key once, in the order of first occurrence. This is what
`List.eraseDups` makes of the keys. A list that entries are put to in this way keeps what it has in
front, and stays as it is when it has them all.
-/

namespace TagAtlas

variable {β κ : Type} [BEq κ] [LawfulBEq κ]

theorem eraseDups_concat (l : List κ) (a : κ) :
    (l ++ [a]).eraseDups = if a ∈ l then l.eraseDups else l.eraseDups ++ [a] := by
  rw [List.eraseDups_append]
  by_cases h : a ∈ l <;> simp [List.cons_removeAll, List.eraseDups_cons, h]

theorem nodup_eraseDups (l : List κ) : l.eraseDups.Nodup := by
  induction l using List.reverseRecOn with
  | nil => simp
  | append_singleton l a ih =>
    rw [eraseDups_concat]
    split
    · exact ih
    next h =>
      rw [← List.concat_eq_append]
      exact ih.concat (mt List.mem_eraseDups.mp h)

theorem eraseDups_of_nodup {l : List κ} (h : l.Nodup) : l.eraseDups = l := by
  induction l using List.reverseRecOn with
  | nil => rfl
  | append_singleton l a ih =>
    rw [← List.concat_eq_append, List.nodup_concat] at h
    obtain ⟨ha, hl⟩ := h
    rw [eraseDups_concat, if_neg ha, ih hl]

theorem eraseDups_eraseDups_append (l l' : List κ) :
    (l.eraseDups ++ l').eraseDups = (l ++ l').eraseDups := by
  have hmem : l'.removeAll l.eraseDups = l'.removeAll l :=
    List.filter_congr fun a _ => by simp [List.elem_eq_contains]
  rw [List.eraseDups_append, List.eraseDups_append, hmem, eraseDups_of_nodup (nodup_eraseDups l)]

theorem eraseDups_perm {l l' : List κ} (h : l.Perm l') : l.eraseDups.Perm l'.eraseDups := by
  refine (List.perm_ext_iff_of_nodup (nodup_eraseDups l) (nodup_eraseDups l')).mpr fun a => ?_
  rw [List.mem_eraseDups, List.mem_eraseDups, h.mem_iff]

/-- A state collects keys when each step puts one at the end unless it is there. -/
theorem collected_foldl {σ : Type} {v : σ → List κ} {k : β → κ} {step : σ → β → σ}
    (hstep : ∀ s b, v (step s b) = if k b ∈ v s then v s else v s ++ [k b])
    {start : σ} (hstart : (v start).Nodup) (items : List β) :
    v (items.foldl step start) = (v start ++ items.map k).eraseDups := by
  induction items using List.reverseRecOn with
  | nil => simp [eraseDups_of_nodup hstart]
  | append_singleton items b ih =>
    rw [List.foldl_append, List.foldl_cons, List.foldl_nil, hstep, ih, List.map_append,
      ← List.append_assoc, List.map_singleton, eraseDups_concat]
    simp only [List.mem_eraseDups]

/-- Some entries after others, without those that are there. -/
def appendNew (all l : List κ) : List κ :=
  l.foldl (fun all x => if all.contains x then all else all ++ [x]) all

variable {all l : List κ}

omit [LawfulBEq κ] in
theorem prefix_appendNew (all l : List κ) : all <+: appendNew all l := by
  induction l generalizing all with
  | nil => exact List.prefix_rfl
  | cons x l ih =>
    rw [appendNew, List.foldl_cons]
    split
    · exact ih all
    · exact (List.prefix_append all [x]).trans (ih _)

theorem mem_appendNew {x : κ} : x ∈ appendNew all l ↔ x ∈ all ∨ x ∈ l := by
  induction l generalizing all with
  | nil => simp [appendNew]
  | cons y l ih =>
    rw [appendNew, List.foldl_cons, List.mem_cons]
    split
    next hy =>
      rw [List.contains_iff_mem] at hy
      refine ih.trans ⟨fun h => h.imp_right .inr, ?_⟩
      rintro (h | rfl | h)
      · exact .inl h
      · exact .inl hy
      · exact .inr h
    next =>
      refine ih.trans ?_
      rw [List.mem_append, List.mem_singleton, or_assoc]

theorem appendNew_of_subset (h : ∀ x ∈ l, x ∈ all) : appendNew all l = all := by
  induction l with
  | nil => rfl
  | cons x l ih =>
    rw [appendNew, List.foldl_cons, if_pos (List.contains_iff_mem.mpr (h x List.mem_cons_self))]
    exact ih fun y hy => h y (List.mem_cons_of_mem _ hy)

end TagAtlas
