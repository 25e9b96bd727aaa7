import TagAtlas.Proofs.TextParts

/-!
# Lines of texts

Where a piece of a text lies among the pieces between separators, and on which line of the text:
the number of separators before it is the number of pieces above it.
-/

namespace TagAtlas.Text

variable {sep : Char → Bool} {s p x : List Char} {i : Nat}

theorem trim_isInfix (s : List Char) : trim s <:+: s :=
  (trimEnd_isPrefix _).isInfix.trans (List.dropWhile_suffix _).isInfix

/-- A text without blanks at its ends stays in front when more is trimmed. -/
theorem Unblanked.trim_append (h : Unblanked s) (hne : s ≠ []) (rest : List Char) :
    trim (s ++ rest) = s ++ trimEnd rest := by
  have hhead : ∀ c ∈ (s ++ rest).head?, isBlank c = false := by
    rw [List.head?_append_of_ne_nil _ hne]
    exact h.head
  have hlast : s.reverse.dropWhile isBlank = s.reverse :=
    dropWhile_eq_self (by rw [List.head?_reverse]; exact h.last)
  rw [trim, trimStart, dropWhile_eq_self hhead, trimEnd, List.reverse_append, List.dropWhile_append]
  split
  next hblank => simp [trimEnd, List.isEmpty_iff.mp hblank, hlast]
  next => simp [trimEnd]

/-! ### Pieces -/

@[simp] theorem splitBy_cons_of_sep {c : Char} (hc : sep c = true) (s : List Char) :
    splitBy sep (c :: s) = [] :: splitBy sep s := by
  simp [splitBy, hc]

/-- The first piece is what stands before the first separator. -/
theorem exists_splitBy_eq_cons (sep : Char → Bool) (s : List Char) :
    ∃ more, splitBy sep s = s.takeWhile (!sep ·) :: more := by
  induction s with
  | nil => exact ⟨[], rfl⟩
  | cons c s ih =>
    obtain ⟨more, hs⟩ := ih
    cases hc : sep c with
    | true => exact ⟨splitBy sep s, by simp [hc]⟩
    | false => exact ⟨more, by simp [splitBy, hc, hs]⟩

theorem splitBy_eq_singleton (h : ∀ c ∈ s, sep c = false) : splitBy sep s = [s] := by
  induction s with
  | nil => rfl
  | cons c s ih =>
    obtain ⟨hc, hs⟩ := List.forall_mem_cons.mp h
    simp [splitBy, hc, ih hs]

theorem splitBy_append_cons {c : Char} (h : ∀ c ∈ p, sep c = false) (hc : sep c = true)
    (s : List Char) : splitBy sep (p ++ c :: s) = p :: splitBy sep s := by
  induction p with
  | nil => exact splitBy_cons_of_sep hc s
  | cons d p ih =>
    obtain ⟨hd, hp⟩ := List.forall_mem_cons.mp h
    rw [List.cons_append, splitBy, hd, if_neg Bool.false_ne_true, ih hp]

/-- A character that is no separator stands in the first piece. -/
theorem getElem?_splitBy_cons_succ {c : Char} (hc : sep c = false) (s : List Char) (i : Nat) :
    (splitBy sep (c :: s))[i + 1]? = (splitBy sep s)[i + 1]? := by
  obtain ⟨more, hs⟩ := exists_splitBy_eq_cons sep s
  simp [splitBy, hc, hs]

/-- Above a piece there is one piece for each separator before it. -/
theorem exists_of_getElem?_splitBy (h : (splitBy sep s)[i]? = some p) :
    ∃ a b, s = a ++ p ++ b ∧ a.countP sep = i ∧ ∀ c ∈ p, sep c = false := by
  induction s generalizing i with
  | nil =>
    cases i with
    | zero => exact ⟨[], [], by simpa [splitBy] using h, rfl, by simp_all [splitBy]⟩
    | succ i => simp [splitBy] at h
  | cons c s ih =>
    cases i with
    | zero =>
      obtain ⟨more, hs⟩ := exists_splitBy_eq_cons sep (c :: s)
      obtain rfl : (c :: s).takeWhile (!sep ·) = p := by simpa [hs] using h
      refine ⟨[], (c :: s).dropWhile (!sep ·), ?_, rfl, fun d hd => ?_⟩
      · rw [List.nil_append, List.takeWhile_append_dropWhile]
      · simpa using List.mem_takeWhile_imp hd
    | succ i =>
      cases hc : sep c with
      | true =>
        obtain ⟨a, b, rfl, hcount, hp⟩ := ih (i := i) (by simpa [hc] using h)
        exact ⟨c :: a, b, by simp, by simp [hc, hcount], hp⟩
      | false =>
        rw [getElem?_splitBy_cons_succ hc] at h
        obtain ⟨a, b, rfl, hcount, hp⟩ := ih h
        exact ⟨c :: a, b, by simp, by simp [hc, hcount], hp⟩

/-- A part of a text that holds no separator lies in one piece. -/
theorem exists_getElem?_splitBy (hx : ∀ c ∈ x, sep c = false) (a b : List Char) :
    ∃ l r, (splitBy sep (a ++ x ++ b))[a.countP sep]? = some (l ++ x ++ r) := by
  induction a with
  | nil =>
    obtain ⟨more, hs⟩ := exists_splitBy_eq_cons sep (x ++ b)
    refine ⟨[], b.takeWhile (!sep ·), ?_⟩
    rw [List.takeWhile_append_of_pos (by simpa using hx)] at hs
    simp [hs]
  | cons c a ih =>
    obtain ⟨l, r, hpiece⟩ := ih
    cases hc : sep c with
    | true => exact ⟨l, r, by simpa [hc] using hpiece⟩
    | false =>
      rw [List.countP_cons_of_neg (by simp [hc]), List.cons_append, List.cons_append]
      cases hcount : a.countP sep with
      | zero =>
        obtain ⟨more, hs⟩ := exists_splitBy_eq_cons sep (a ++ x ++ b)
        rw [hcount, hs] at hpiece
        refine ⟨c :: l, r, ?_⟩
        simp_all [splitBy]
      | succ n =>
        rw [hcount] at hpiece
        exact ⟨l, r, (getElem?_splitBy_cons_succ hc _ n).trans hpiece⟩

/-! ### Lines -/

theorem lines_append_feed (hp : '\n' ∉ p) (s : List Char) :
    lines (p ++ '\n' :: s) = dropReturn p :: lines s := by
  have hpiece : ∀ c ∈ p, decide (c = '\n') = false :=
    fun c hc => decide_eq_false fun heq => hp (heq ▸ hc)
  obtain ⟨more, hs⟩ := exists_splitBy_eq_cons (· = '\n') s
  rw [lines, lines, splitBy_append_cons hpiece (by simp), hs, List.dropLast_cons_cons,
    List.getLast?_cons_cons, List.map_cons]
  split <;> rfl

/-- A carriage return at the end is a blank. -/
theorem trim_dropReturn (s : List Char) : trim (dropReturn s) = trim s := by
  unfold dropReturn
  split
  next rest hrev =>
    have hs : s = rest.reverse ++ ['\r'] := by
      rw [← List.reverse_reverse s, hrev, List.reverse_cons]
    rw [hs, trim_append_blanks (by simp [isBlank])]
  next => rfl

theorem lines_eq_singleton (hp : '\n' ∉ p) (hne : p ≠ []) : lines p = [p] := by
  have hpiece : ∀ c ∈ p, decide (c = '\n') = false :=
    fun c hc => decide_eq_false fun heq => hp (heq ▸ hc)
  rw [lines, splitBy_eq_singleton hpiece]
  cases p with
  | nil => exact absurd rfl hne
  | cons c p => rfl

theorem isInfix_dropReturn (hne : x ≠ []) (hlast : '\r' ∉ x.getLast?) (h : x <:+: p) :
    x <:+: dropReturn p := by
  obtain ⟨l, r, rfl⟩ := h
  unfold dropReturn
  split
  next rest hrev =>
    have hp : l ++ x ++ r = rest.reverse ++ ['\r'] := by
      rw [← List.reverse_reverse (l ++ x ++ r), hrev, List.reverse_cons]
    cases r using List.reverseRecOn with
    | nil =>
      have hmem : '\r' ∈ x.getLast? := by
        have := congrArg List.getLast? hp
        rw [List.append_nil, List.getLast?_append_of_ne_nil _ hne] at this
        simp [this]
      exact absurd hmem hlast
    | append_singleton r c _ =>
      rw [← List.append_assoc] at hp
      obtain ⟨hrest, -⟩ := List.append_inj' hp rfl
      exact ⟨l, r, hrest⟩
  next => exact ⟨l, r, rfl⟩

/-- A piece between line feeds is a line, perhaps without a carriage return at its end. The last one
may be empty, and then it is none. -/
theorem exists_getElem?_lines_of_piece (h : (splitBy (· = '\n') s)[i]? = some p) (hp : p ≠ []) :
    ∃ line, (lines s)[i]? = some line ∧ (line = p ∨ line = dropReturn p) := by
  obtain ⟨init, last, hs⟩ : ∃ init last, splitBy (· = '\n') s = init ++ [last] := by
    obtain ⟨more, hs⟩ := exists_splitBy_eq_cons (· = '\n') s
    exact ⟨_, _, (List.dropLast_append_getLast (hs ▸ List.cons_ne_nil _ _)).symm⟩
  have hlines : ∃ rest, lines s = init.map dropReturn ++ rest ∧ (last ≠ [] → rest = [last]) := by
    cases last with
    | nil => exact ⟨[], by simp [lines, hs], by simp⟩
    | cons c last => exact ⟨[c :: last], by simp [lines, hs], by simp⟩
  obtain ⟨rest, hlines, hrest⟩ := hlines
  rw [hs] at h
  rcases Nat.lt_or_ge i init.length with hi | hi
  · rw [List.getElem?_append_left hi] at h
    refine ⟨dropReturn p, ?_, .inr rfl⟩
    rw [hlines, List.getElem?_append_left (by simpa using hi), List.getElem?_map, h]
    rfl
  · rw [List.getElem?_append_right hi, List.getElem?_singleton] at h
    obtain ⟨hzero, rfl⟩ : i - init.length = 0 ∧ last = p := by
      split at h
      next hzero => exact ⟨hzero, Option.some.inj h⟩
      next => cases h
    refine ⟨last, ?_, .inl rfl⟩
    rw [hlines, List.getElem?_append_right (by simpa using hi), hrest hp, List.length_map, hzero]
    rfl

/-- A part of a text without a line feed lies on one line, which has one line above it for each line
feed before the part. -/
theorem exists_getElem?_lines (hne : x ≠ []) (hlast : '\r' ∉ x.getLast?) (hx : '\n' ∉ x)
    (a b : List Char) :
    ∃ line, (lines (a ++ x ++ b))[a.count '\n']? = some line ∧ x <:+: line := by
  have hsep : ∀ c ∈ x, decide (c = '\n') = false :=
    fun c hc => decide_eq_false fun heq => hx (heq ▸ hc)
  obtain ⟨l, r, hpiece⟩ := exists_getElem?_splitBy hsep a b
  have hpart : x <:+: l ++ x ++ r := ⟨l, r, rfl⟩
  obtain ⟨line, hline, heq⟩ := exists_getElem?_lines_of_piece hpiece (by simp [hne])
  refine ⟨line, hline, ?_⟩
  rcases heq with rfl | rfl
  · exact hpart
  · exact isInfix_dropReturn hne hlast hpart

end TagAtlas.Text
