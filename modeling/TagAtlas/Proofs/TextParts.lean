import Mathlib
import TagAtlas.Text.Blank
import TagAtlas.Text.Search

/-!
# Parts of texts

Where a text is cut: at the first character that does not satisfy a test, at the first that does,
before a closing text, and at the blanks on both sides.
-/

namespace TagAtlas.Text

/-! ### Cuts -/

variable {p : Char → Bool} {c : Char} {l s rest : List Char} {text : String}

theorem dropWhile_eq_self (h : ∀ c ∈ s.head?, p c = false) : s.dropWhile p = s := by
  cases s with
  | nil => rfl
  | cons c s => rw [List.dropWhile_cons, h c rfl, if_neg Bool.false_ne_true]

theorem takeWhile_append (h : ∀ c ∈ s, p c = true) (hrest : ∀ c ∈ rest.head?, p c = false) :
    (s ++ rest).takeWhile p = s := by
  rw [List.takeWhile_append_of_pos h]
  cases rest with
  | nil => exact List.append_nil s
  | cons c rest =>
    rw [List.takeWhile_cons, hrest c rfl, if_neg Bool.false_ne_true, List.append_nil]

theorem dropWhile_append (h : ∀ c ∈ s, p c = true) (hrest : ∀ c ∈ rest.head?, p c = false) :
    (s ++ rest).dropWhile p = rest := by
  rw [List.dropWhile_append_of_pos h, dropWhile_eq_self hrest]

/-- At the end only what satisfies the test is dropped. -/
theorem rdropWhile_append (hs : ∀ c ∈ s.getLast?, p c = false) (hrest : ∀ c ∈ rest, p c = true) :
    (s ++ rest).rdropWhile p = s := by
  have hhead : ∀ c ∈ s.reverse.head?, p c = false := by rwa [List.head?_reverse]
  rw [List.rdropWhile, List.reverse_append, dropWhile_append _ hhead, List.reverse_reverse]
  exact fun c hc => hrest c (List.mem_reverse.mp hc)

/-- A character that does not satisfy the test stays, and all before it. -/
theorem rdropWhile_append_cons (hc : p c = false) (l rest : List Char) :
    (l ++ c :: rest).rdropWhile p = l ++ c :: rest.rdropWhile p := by
  have hstop : (c :: l.reverse).dropWhile p = c :: l.reverse :=
    dropWhile_eq_self (by simpa using hc)
  rw [List.rdropWhile, List.reverse_append, List.reverse_cons, List.append_assoc,
    List.singleton_append, List.dropWhile_append, hstop]
  split
  next hempty => simp [List.rdropWhile, List.isEmpty_iff.mp hempty]
  next => simp [List.rdropWhile]

theorem cut?_append (h : ∀ d ∈ s, p d = false) (hc : p c = true) (rest : List Char) :
    cut? p (s ++ c :: rest) = some (s, rest) := by
  induction s with
  | nil => rw [List.nil_append, cut?, if_pos hc]
  | cons d s ih =>
    obtain ⟨hd, hs⟩ := List.forall_mem_cons.mp h
    rw [List.cons_append, cut?, hd, if_neg Bool.false_ne_true, ih hs, Option.map_some]

theorem cut?_eq_none (h : ∀ c ∈ s, p c = false) : cut? p s = none := by
  induction s with
  | nil => rfl
  | cons c s ih =>
    obtain ⟨hc, hs⟩ := List.forall_mem_cons.mp h
    rw [cut?, hc, if_neg Bool.false_ne_true, ih hs, Option.map_none]

theorem before?_eq_some_iff {close lead : List Char} :
    before? close s = some lead ↔ s = lead ++ close := by
  unfold before?
  simp only [Option.map_eq_some_iff, after?_eq_some_iff]
  constructor
  · rintro ⟨rest, hs, rfl⟩
    rw [← List.reverse_reverse s, hs]
    simp
  · rintro rfl
    exact ⟨lead.reverse, by simp, by simp⟩

/-! ### Blanks -/

theorem mem_trim (h : c ∈ l) (hc : isBlank c = false) : c ∈ trim l := by
  have hdrop : ∀ {l : List Char}, c ∈ l → c ∈ l.dropWhile isBlank := by
    intro l hl
    rw [← List.takeWhile_append_dropWhile (p := isBlank) (l := l), List.mem_append] at hl
    refine hl.resolve_left fun htake => ?_
    simpa [hc] using List.mem_takeWhile_imp htake
  unfold trim trimEnd trimStart
  rw [List.mem_reverse]
  exact hdrop (List.mem_reverse.mpr (hdrop h))

theorem trim_eq_nil_iff : trim l = [] ↔ ∀ c ∈ l, isBlank c = true := by
  have hdrop : (∀ c ∈ l.dropWhile isBlank, isBlank c = true) ↔ ∀ c ∈ l, isBlank c = true := by
    constructor
    · intro h c hc
      rw [← List.takeWhile_append_dropWhile (p := isBlank) (l := l), List.mem_append] at hc
      exact hc.elim List.mem_takeWhile_imp (h c)
    · exact fun h c hc => h c ((List.dropWhile_sublist _).subset hc)
  rw [← hdrop, trim, trimEnd, trimStart, List.reverse_eq_nil_iff, List.dropWhile_eq_nil_iff]
  simp only [List.mem_reverse]

/-- A text is blank just when all its characters are. -/
theorem trimmed_eq_empty_iff : trimmed text = "" ↔ ∀ c ∈ text.toList, isBlank c = true := by
  rw [← trim_eq_nil_iff, trimmed, ← String.toList_inj, String.toList_ofList]
  rfl

theorem trimmed_ne_empty_of_mem (h : c ∈ text.toList) (hc : isBlank c = false) :
    trimmed text ≠ "" := by
  intro hblank
  rw [trimmed_eq_empty_iff.mp hblank c h] at hc
  cases hc

theorem trimmed_trimmed_ne_empty (h : trimmed text ≠ "") : trimmed (trimmed text) ≠ "" := by
  rw [ne_eq, trimmed_eq_empty_iff] at h
  push Not at h
  obtain ⟨c, hc, hblank⟩ := h
  have hc' : isBlank c = false := Bool.eq_false_iff.mpr hblank
  refine trimmed_ne_empty_of_mem ?_ hc'
  rw [trimmed, String.toList_ofList]
  exact mem_trim hc hc'

/-- A text neither begins nor ends with a blank. -/
structure Unblanked (s : List Char) : Prop where
  head : ∀ c ∈ s.head?, isBlank c = false
  last : ∀ c ∈ s.getLast?, isBlank c = false

instance (s : List Char) : Decidable (Unblanked s) :=
  decidable_of_iff (s.head?.all (!isBlank ·) = true ∧ s.getLast?.all (!isBlank ·) = true) <| by
    simp only [Option.all_eq_true, Bool.not_eq_true', ← Option.mem_def]
    exact ⟨fun h => ⟨h.1, h.2⟩, fun h => ⟨h.head, h.last⟩⟩

theorem Unblanked.trim_eq (h : Unblanked s) : trim s = s := by
  have hlast : ∀ c ∈ s.reverse.head?, isBlank c = false := by
    rw [List.head?_reverse]
    exact h.last
  rw [trim, trimEnd, trimStart, dropWhile_eq_self h.head, dropWhile_eq_self hlast,
    List.reverse_reverse]

theorem trimEnd_eq_rdropWhile (s : List Char) : trimEnd s = s.rdropWhile isBlank := rfl

/-- Blanks in front do not count, and those at the end are behind the last other character. -/
theorem trim_blanks_append {b : List Char} (h : ∀ c ∈ b, isBlank c = true)
    (hl : ∀ c ∈ l.head?, isBlank c = false) (hc : isBlank c = false) (s : List Char) :
    trim (b ++ (l ++ c :: s)) = l ++ c :: trimEnd s := by
  have hhead : ∀ d ∈ (l ++ c :: s).head?, isBlank d = false := by
    cases l with
    | nil => simpa using hc
    | cons d l => exact hl
  rw [trim, trimStart, dropWhile_append h hhead]
  exact rdropWhile_append_cons hc l s

/-- Blanks at the end do not count. -/
theorem trim_append_blanks {b : List Char} (h : ∀ c ∈ b, isBlank c = true) (s : List Char) :
    trim (s ++ b) = trim s := by
  have hend : ∀ s, trimEnd (s ++ b) = trimEnd s := by
    intro s
    have hb : ∀ c ∈ b.reverse, isBlank c = true := fun c hc => h c (List.mem_reverse.mp hc)
    rw [trimEnd, trimEnd, List.reverse_append, List.dropWhile_append_of_pos hb]
  unfold trim trimStart
  rw [List.dropWhile_append]
  split
  next hs =>
    rw [List.isEmpty_iff.mp hs, List.dropWhile_eq_nil_iff.mpr h]
  next => exact hend _

theorem exists_trimEnd_append (s : List Char) :
    ∃ b, (∀ c ∈ b, isBlank c = true) ∧ trimEnd s ++ b = s := by
  refine ⟨(s.reverse.takeWhile isBlank).reverse, ?_, ?_⟩
  · exact fun c hc => List.mem_takeWhile_imp (List.mem_reverse.mp hc)
  · rw [trimEnd, ← List.reverse_append, List.takeWhile_append_dropWhile, List.reverse_reverse]

theorem trimEnd_isPrefix (s : List Char) : trimEnd s <+: s := by
  obtain ⟨b, -, hs⟩ := exists_trimEnd_append s
  exact ⟨b, hs⟩

theorem trim_sublist (s : List Char) : (trim s).Sublist s :=
  (trimEnd_isPrefix _).sublist.trans (List.dropWhile_sublist _)

theorem unblanked_trim (s : List Char) : Unblanked (trim s) where
  head := by
    intro c hc
    obtain ⟨rest, hrest⟩ := trimEnd_isPrefix (trimStart s)
    have hhead := List.head?_dropWhile_not isBlank s
    rw [trim] at hc
    rw [← trimStart, ← hrest, List.head?_append, Option.mem_def.mp hc, Option.some_or] at hhead
    exact hhead
  last := by
    intro c hc
    have hhead := List.head?_dropWhile_not isBlank (trimStart s).reverse
    rw [trim, trimEnd, List.getLast?_reverse] at hc
    rw [Option.mem_def.mp hc] at hhead
    exact hhead

end TagAtlas.Text
