import Mathlib.Data.List.Pairwise
import Mathlib.Order.Lattice
import TagAtlas.Go.Source

/-!
# Groups of comments

The groups of some comments are the comments in the order of their lines, divided where a line is
that no comment touches. Two comments are in one group just when the second is reached from the
first over comments each of which begins at most one line after the furthest end so far.
-/

namespace TagAtlas.Go

variable {comments : List Comment}

/-- From a comment others are reached, up to the furthest line on which one of them ends. -/
inductive Reaches (comments : List Comment) (a : Comment) : Comment → Nat → Prop
  | start : Reaches comments a a a.endLine
  | step {b c : Comment} {reach : Nat} : Reaches comments a b reach → c ∈ comments →
      c.line ≤ reach + 1 → Reaches comments a c (max c.endLine reach)

/-- Some comments in the order of their lines; those on one line keep their order. -/
structure SortedByLine (comments sorted : List Comment) : Prop where
  perm : sorted.Perm comments
  ordered : sorted.Pairwise fun a b => a.line ≤ b.line
  stable : ∀ n, sorted.filter (·.line = n) = comments.filter (·.line = n)

theorem sortedByLine_mergeSort (comments : List Comment) :
    SortedByLine comments (comments.mergeSort fun a b => a.line ≤ b.line) := by
  have htrans : ∀ a b c : Comment, decide (a.line ≤ b.line) = true →
      decide (b.line ≤ c.line) = true → decide (a.line ≤ c.line) = true := by
    simp only [decide_eq_true_eq]
    omega
  have htotal : ∀ a b : Comment, (decide (a.line ≤ b.line) || decide (b.line ≤ a.line)) = true := by
    simp only [Bool.or_eq_true, decide_eq_true_eq]
    omega
  have hperm := List.mergeSort_perm comments fun a b => decide (a.line ≤ b.line)
  refine ⟨hperm, ?_, fun n => ?_⟩
  · simpa using List.pairwise_mergeSort htrans htotal comments
  -- The comments on line `n` are a sublist of the sorted ones, so they come in the same order.
  · have halike : (comments.filter (·.line = n)).Pairwise
        fun a b => decide (a.line ≤ b.line) = true := by
      refine List.pairwise_of_forall_mem_list fun a ha b hb => ?_
      simp only [List.mem_filter, decide_eq_true_eq] at ha hb
      simp [ha.2, hb.2]
    have hsub := (List.sublist_mergeSort htrans htotal halike List.filter_sublist).filter
      fun c => decide (c.line = n)
    rw [List.filter_filter] at hsub
    simp only [Bool.and_self] at hsub
    exact (hsub.eq_of_length (hperm.filter _).length_eq.symm).symm

namespace CommentGroup

/-- A group begins where the first of its comments does, and ends where the last one does. -/
structure Spans (g : CommentGroup) : Prop where
  first : ∃ c ∈ g.comments, c.line = g.line
  line_le : ∀ c ∈ g.comments, g.line ≤ c.line
  last : ∃ c ∈ g.comments, c.endLine = g.endLine
  endLine_le : ∀ c ∈ g.comments, c.endLine ≤ g.endLine

/-- The exported declarations that are anchored right below a group. -/
def declaredBelow (g : CommentGroup) (declared : List Declared) : List Declared :=
  declared.filter fun d => isExported d.symbol.name && d.anchor = g.endLine + 1

theorem mem_declaredBelow_iff {g : CommentGroup} {declared : List Declared} {d : Declared} :
    d ∈ g.declaredBelow declared ↔
      d ∈ declared ∧ isExported d.symbol.name = true ∧ d.anchor = g.endLine + 1 := by
  simp [declaredBelow]

theorem symbol_attach (declared : List Declared) (g : CommentGroup) :
    (g.attach declared).symbol =
      ((g.attach declared).declaredBelow declared).head?.map fun d => d.symbol.name := by
  rw [declaredBelow, List.head?_filter]
  rfl

def extend (g : CommentGroup) (c : Comment) : CommentGroup :=
  { g with endLine := max c.endLine g.endLine, comments := g.comments ++ [c] }

/-- A group of comments that hang together: from each of them the end of the group is reached. -/
structure Whole (comments : List Comment) (g : CommentGroup) : Prop extends Spans g where
  subset : ∀ c ∈ g.comments, c ∈ comments
  reaches : ∀ a ∈ g.comments, ∃ b, Reaches comments a b g.endLine

theorem whole_single {c : Comment} (hc : c ∈ comments) :
    Whole comments ⟨c.line, c.endLine, [c], none⟩ := by
  constructor
  · constructor <;> simp
  · simpa using hc
  · simpa using ⟨c, Reaches.start⟩

theorem Whole.extend {g : CommentGroup} (h : Whole comments g) {c : Comment} (hc : c ∈ comments)
    (hproper : c.line ≤ c.endLine) (hafter : ∀ a ∈ g.comments, a.line ≤ c.line)
    (hnear : c.line ≤ g.endLine + 1) : Whole comments (g.extend c) := by
  obtain ⟨first, hfirst, hline⟩ := h.first
  obtain ⟨last, hlast, hend⟩ := h.last
  have hmem : ∀ a, a ∈ (g.extend c).comments ↔ a ∈ g.comments ∨ a = c := by
    simp [CommentGroup.extend]
  have hendLine : (g.extend c).endLine = max c.endLine g.endLine := rfl
  constructor
  · constructor
    · exact ⟨first, (hmem _).mpr (.inl hfirst), hline⟩
    · intro a ha
      rcases (hmem a).mp ha with ha | rfl
      · exact h.line_le a ha
      · exact hline ▸ hafter first hfirst
    · rcases le_total c.endLine g.endLine with hle | hle
      · exact ⟨last, (hmem _).mpr (.inl hlast), by omega⟩
      · exact ⟨c, (hmem _).mpr (.inr rfl), by omega⟩
    · intro a ha
      rcases (hmem a).mp ha with ha | rfl
      · exact (h.endLine_le a ha).trans (le_max_right _ _)
      · exact le_max_left _ _
  · intro a ha
    rcases (hmem a).mp ha with ha | rfl
    · exact h.subset a ha
    · exact hc
  · intro a ha
    rcases (hmem a).mp ha with ha | rfl
    · obtain ⟨b, hb⟩ := h.reaches a ha
      exact ⟨c, hb.step hc hnear⟩
    -- The new comment reaches back to the one with which the group ended.
    · have hback := Reaches.start.step (h.subset last hlast)
        (show last.line ≤ a.endLine + 1 by have := hafter last hlast; omega)
      rw [hend, max_comm] at hback
      exact ⟨last, hback⟩

end CommentGroup

/-- Whole groups with a line between each and the next, none before a line. -/
structure Grouped (comments : List Comment) (start : Nat) (groups : List CommentGroup) : Prop where
  whole : ∀ g ∈ groups, g.Whole comments
  apart : groups.Pairwise fun g h => g.endLine + 1 < h.line
  start_le : ∀ g ∈ groups, start ≤ g.line

theorem grouped_groupFrom (hproper : ∀ c ∈ comments, c.line ≤ c.endLine) {rest : List Comment}
    {g : CommentGroup} (hg : g.Whole comments) (hrest : ∀ c ∈ rest, c ∈ comments)
    (hsorted : (g.comments ++ rest).Pairwise fun a b => a.line ≤ b.line) :
    Grouped comments g.line (groupFrom g rest) := by
  induction rest generalizing g with
  | nil => exact ⟨by simpa [groupFrom] using hg, by simp [groupFrom], by simp [groupFrom]⟩
  | cons c rest ih =>
    obtain ⟨hc, hrest⟩ := List.forall_mem_cons.mp hrest
    have hafter : ∀ a ∈ g.comments, a.line ≤ c.line :=
      fun a ha => (List.pairwise_append.mp hsorted).2.2 a ha c List.mem_cons_self
    rw [groupFrom]
    split
    next hnear =>
      have hnext : ((g.extend c).comments ++ rest).Pairwise fun a b => a.line ≤ b.line := by
        simpa [CommentGroup.extend] using hsorted
      exact ih (hg.extend hc (hproper c hc) hafter hnear) hrest hnext
    next hfar =>
      have hnext := (List.pairwise_append.mp hsorted).2.1
      have htail := ih (CommentGroup.whole_single hc) hrest (by simpa using hnext)
      obtain ⟨first, hfirst, hline⟩ := hg.first
      have hstart : g.line ≤ c.line := hline ▸ hafter first hfirst
      constructor
      · exact List.forall_mem_cons.mpr ⟨hg, htail.whole⟩
      · refine List.pairwise_cons.mpr ⟨fun h hh => ?_, htail.apart⟩
        have := htail.start_le h hh
        dsimp only at this
        omega
      · exact List.forall_mem_cons.mpr ⟨le_rfl, fun h hh => hstart.trans (htail.start_le h hh)⟩

theorem flatMap_comments_groupFrom (g : CommentGroup) (rest : List Comment) :
    (groupFrom g rest).flatMap CommentGroup.comments = g.comments ++ rest := by
  induction rest generalizing g with
  | nil => simp [groupFrom]
  | cons c rest ih =>
    rw [groupFrom]
    split <;> simp [ih]

theorem flatMap_comments_groupComments (comments : List Comment) :
    (groupComments comments).flatMap CommentGroup.comments =
      comments.mergeSort fun a b => a.line ≤ b.line := by
  rw [groupComments]
  cases comments.mergeSort fun a b => a.line ≤ b.line with
  | nil => rfl
  | cons c rest => exact flatMap_comments_groupFrom _ rest

theorem grouped_groupComments (hproper : ∀ c ∈ comments, c.line ≤ c.endLine) :
    Grouped comments 0 (groupComments comments) := by
  have hsorted := sortedByLine_mergeSort comments
  rw [groupComments]
  cases hcons : comments.mergeSort fun a b => a.line ≤ b.line with
  | nil => exact ⟨by simp [groupSorted], by simp [groupSorted], by simp [groupSorted]⟩
  | cons c rest =>
    rw [hcons] at hsorted
    have hmem : ∀ a ∈ c :: rest, a ∈ comments := fun a => hsorted.perm.mem_iff.mp
    obtain ⟨hc, hrest⟩ := List.forall_mem_cons.mp hmem
    have hgroups := grouped_groupFrom hproper (CommentGroup.whole_single hc) hrest
      (by simpa using hsorted.ordered)
    exact ⟨hgroups.whole, hgroups.apart, fun g _ => Nat.zero_le _⟩

namespace Grouped

variable {start : Nat} {groups : List CommentGroup} {a b c : Comment} {g h : CommentGroup}

/-- Of two groups one is above the other, unless they are the same. -/
theorem eq_or_above (hgroups : Grouped comments start groups) (hg : g ∈ groups) (hh : h ∈ groups) :
    g = h ∨ g.endLine + 1 < h.line ∨ h.endLine + 1 < g.line := by
  let r (g h : CommentGroup) : Prop :=
    g = h ∨ g.endLine + 1 < h.line ∨ h.endLine + 1 < g.line
  have hsymm : Std.Symm r := ⟨fun g h hr => hr.elim (.inl ·.symm) fun hr => .inr hr.symm⟩
  have hpairwise : groups.Pairwise r := hgroups.apart.imp fun hlt => .inr (.inl hlt)
  exact hpairwise.forall_of_forall (fun g _ => .inl rfl) hg hh

/-- A comment that begins at most one line after the end of a group is in it or above it. -/
theorem mem_or_above (hgroups : Grouped comments start groups) (hg : g ∈ groups) (hh : h ∈ groups)
    (hc : c ∈ h.comments) (hnear : c.line ≤ g.endLine + 1) : h = g ∨ c.endLine < g.line := by
  have hline := (hgroups.whole h hh).line_le c hc
  have hend := (hgroups.whole h hh).endLine_le c hc
  rcases hgroups.eq_or_above hg hh with rfl | hlt | hlt
  · exact .inl rfl
  · omega
  · exact .inr (by omega)

section

variable (hproper : ∀ c ∈ comments, c.line ≤ c.endLine) (hgroups : Grouped comments start groups)

include hproper hgroups

theorem line_le_endLine (hg : g ∈ groups) : g.line ≤ g.endLine := by
  have hwhole := hgroups.whole g hg
  obtain ⟨c, hc, hline⟩ := hwhole.first
  have := hproper c (hwhole.subset c hc)
  have := hwhole.endLine_le c hc
  omega

/-- From a comment of a group nothing below the group is reached. -/
theorem reach_le (hcover : ∀ c ∈ comments, ∃ h ∈ groups, c ∈ h.comments) (hg : g ∈ groups)
    (ha : a ∈ g.comments) {reach : Nat} (hreach : Reaches comments a b reach) :
    reach ≤ g.endLine := by
  induction hreach with
  | start => exact (hgroups.whole g hg).endLine_le a ha
  | step _ hc hnear ih =>
    obtain ⟨h, hh, hc⟩ := hcover _ hc
    rcases hgroups.mem_or_above hg hh hc (by omega) with rfl | habove
    · exact max_le ((hgroups.whole h hh).endLine_le _ hc) ih
    · have := hgroups.line_le_endLine hproper hg
      exact max_le (by omega) ih

/-- Two comments are in one group just when the second is reached from the first. -/
theorem together_iff (hcover : ∀ c ∈ comments, ∃ h ∈ groups, c ∈ h.comments)
    (ha : a ∈ comments) (hb : b ∈ comments) (hab : a.line ≤ b.line) :
    (∃ g ∈ groups, a ∈ g.comments ∧ b ∈ g.comments) ↔ ∃ reach, Reaches comments a b reach := by
  constructor
  · rintro ⟨g, hg, hag, hbg⟩
    have hwhole := hgroups.whole g hg
    obtain ⟨c, hreach⟩ := hwhole.reaches a hag
    have := hproper b hb
    have := hwhole.endLine_le b hbg
    exact ⟨_, hreach.step hb (by omega)⟩
  · rintro ⟨reach, hreach⟩
    obtain ⟨g, hg, hag⟩ := hcover a ha
    obtain ⟨h, hh, hbh⟩ := hcover b hb
    cases hreach with
    | start => exact ⟨g, hg, hag, hag⟩
    | step hbefore _ hnear =>
      have hle := hgroups.reach_le hproper hcover hg hag hbefore
      rcases hgroups.mem_or_above hg hh hbh (by omega) with rfl | habove
      · exact ⟨h, hh, hag, hbh⟩
      · have := (hgroups.whole g hg).line_le a hag
        have := hproper b hb
        omega

end

end Grouped

/-- The groups divide the comments, and each documents what is declared right below it. -/
structure IsGrouping (comments : List Comment) (declared : List Declared)
    (groups : List CommentGroup) : Prop where
  sorted : SortedByLine comments (groups.flatMap CommentGroup.comments)
  spans : ∀ g ∈ groups, g.Spans
  /-- Between two groups there is a line that no comment touches. -/
  apart : groups.Pairwise fun g h => ∃ n, g.endLine < n ∧ n < h.line ∧
    ∀ c ∈ comments, ¬(c.line ≤ n ∧ n ≤ c.endLine)
  together_iff : ∀ a ∈ comments, ∀ b ∈ comments, a.line ≤ b.line →
    ((∃ g ∈ groups, a ∈ g.comments ∧ b ∈ g.comments) ↔ ∃ reach, Reaches comments a b reach)
  symbol : ∀ g ∈ groups, g.symbol = (g.declaredBelow declared).head?.map fun d => d.symbol.name
  anchors : groups.Pairwise fun g h =>
    ∀ d ∈ g.declaredBelow declared, ∀ e ∈ h.declaredBelow declared, d.anchor ≠ e.anchor

/-- Comments that end on or after the line on which they begin are grouped as they should be. -/
theorem isGrouping_groupComments (hproper : ∀ c ∈ comments, c.line ≤ c.endLine)
    (declared : List Declared) :
    IsGrouping comments declared ((groupComments comments).map (CommentGroup.attach declared)) := by
  have hgroups := grouped_groupComments hproper
  have hsorted := sortedByLine_mergeSort comments
  rw [← flatMap_comments_groupComments] at hsorted
  have hcover : ∀ c ∈ comments, ∃ h ∈ groupComments comments, c ∈ h.comments :=
    fun c hc => List.mem_flatMap.mp (hsorted.perm.mem_iff.mpr hc)
  constructor
  · simpa [List.flatMap_map, CommentGroup.attach] using hsorted
  · simp only [List.forall_mem_map]
    intro g hg
    have hwhole := hgroups.whole g hg
    exact ⟨hwhole.first, hwhole.line_le, hwhole.last, hwhole.endLine_le⟩
  · rw [List.pairwise_map]
    refine hgroups.apart.imp_of_mem fun {g h} hg hh hlt => ?_
    refine ⟨g.endLine + 1, Nat.lt_succ_self _, hlt, fun c hc htouch => ?_⟩
    obtain ⟨k, hk, hc⟩ := hcover c hc
    have hkc := (hgroups.whole k hk).endLine_le c hc
    rcases hgroups.mem_or_above hg hk hc htouch.1 with rfl | habove
    · omega
    · have := hgroups.line_le_endLine hproper hg
      omega
  · intro a ha b hb hab
    rw [← hgroups.together_iff hproper hcover ha hb hab]
    simp [CommentGroup.attach]
  · simp only [List.forall_mem_map]
    exact fun g _ => CommentGroup.symbol_attach declared g
  · rw [List.pairwise_map]
    refine hgroups.apart.imp_of_mem fun {g h} _ hh hlt d hd e he => ?_
    have := (CommentGroup.mem_declaredBelow_iff.mp hd).2.2
    have := (CommentGroup.mem_declaredBelow_iff.mp he).2.2
    have := hgroups.line_le_endLine hproper hh
    simp only [CommentGroup.attach] at *
    omega

/-- A block that holds two other comments between its lines, comments on one line, and a comment
right below a declared name. -/
theorem isGrouping_of_nested_lines :
    let comments : List Comment :=
      [⟨9, 9, "// e"⟩, ⟨1, 6, "/* a */"⟩, ⟨2, 2, "// b"⟩, ⟨5, 5, "// c"⟩, ⟨2, 3, "/* d */"⟩,
        ⟨11, 11, "// f"⟩]
    let declared : List Declared :=
      [⟨⟨"hidden", .variable, 7⟩, 7⟩, ⟨⟨"Shop", .type, 7⟩, 7⟩, ⟨⟨"Order", .type, 10⟩, 10⟩]
    (∀ c ∈ comments, c.line ≤ c.endLine) ∧
      IsGrouping comments declared
        ((groupComments comments).map (CommentGroup.attach declared)) :=
  ⟨by decide, isGrouping_groupComments (by decide) _⟩

end TagAtlas.Go
