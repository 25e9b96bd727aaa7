import TagAtlas.Proofs.ChartClosure
import TagAtlas.Proofs.GrammarLayouts

/-!
# What the recogniser accepts

The recogniser accepts a row just when the grammar derives what is left of it. An item says what its
rule has derived from its origin on, so a rule that is complete at the end is a derivation; and a
derivation leads from item to item up to a complete rule. An optional terminal is dropped only where
no derivation goes on with it.
-/

namespace TagAtlas.Grammar

variable {N T : Type} {grammar : List (Rule N T)} {g : Layout N T} {start : N} {row : List T}
variable {sets : Chart} {i j : Item} {k : Nat}

/-! ### What items say -/

def between (row : List T) (a b : Nat) : List T := (row.take b).drop a

theorem between_append {a b c : Nat} (hab : a ≤ b) (hbc : b ≤ c) :
    between row a b ++ between row b c = between row a c := by
  have hsplit : row.take c = row.take b ++ (row.take c).drop b := by
    conv_lhs => rw [← List.take_append_drop b (row.take c), List.take_take, min_eq_left hbc]
  rcases le_or_gt b row.length with hb | hb
  · rw [between, between, between]
    conv_rhs => rw [hsplit, List.drop_append_of_le_length (by simp; omega)]
  · simp [between, List.take_of_length_le (hb.le.trans hbc), List.take_of_length_le hb.le, hb.le]

theorem between_append_left {a : Nat} (hk : k ≤ row.length) (more : List T) :
    between (row ++ more) a k = between row a k := by
  rw [between, List.take_append_of_le_length hk, between]

theorem between_succ {t : T} {a : Nat} (ha : a ≤ k) (ht : row[k]? = some t) :
    between row a (k + 1) = between row a k ++ [t] := by
  have hk := (List.getElem?_eq_some_iff.mp ht).1
  rw [between, List.take_add_one, ht, List.drop_append_of_le_length (by simp; omega)]
  rfl

/-- At a position an item says that its rule has derived what stands between its origin and there,
and how the rule goes on. -/
structure Item.Spans (grammar : List (Rule N T)) (g : Layout N T) (row : List T) (k : Nat)
    (i : Item) : Prop where
  origin_le : i.origin ≤ k
  rule : ∃ r ∈ grammar, ∃ before after, r.body = before ++ after ∧
    g.Reads r.head i.cell after ∧ Derives grammar before (between row i.origin k)

namespace Item.Spans

theorem lt_size (h : i.Spans grammar g row k) : i.cell < g.cells.size := by
  obtain ⟨r, -, before, after, -, hreads, -⟩ := h.rule
  exact hreads.lt_size

theorem of_start (hg : g.Spells grammar) {n : N} {s : Nat} (hs : s ∈ g.starts n) (k : Nat) :
    (Item.mk s k).Spans grammar g row k := by
  obtain ⟨r, hr, rfl, hreads⟩ := hg.sound n s hs
  have hnone : between row k k = [] := List.drop_of_length_le (by simp)
  exact ⟨le_rfl, r, hr, [], r.body, rfl, hreads, hnone ▸ .nil⟩

theorem extend (h : i.Spans grammar g row k) (hk : k ≤ row.length) (more : List T) :
    i.Spans grammar g (row ++ more) k := by
  obtain ⟨r, hr, before, after, hbody, hreads, hder⟩ := h.rule
  exact ⟨h.origin_le, r, hr, before, after, hbody, hreads,
    (between_append_left hk more).symm ▸ hder⟩

/-- The rule of an item goes on when what comes next is derived. -/
theorem next (h : i.Spans grammar g row k) {s : Symbol N T}
    (hcell : g.cells[i.cell]? = some (.next s)) {m : Nat} (hkm : k ≤ m)
    (hs : Derives grammar [s] (between row k m)) :
    (Item.mk (i.cell + 1) i.origin).Spans grammar g row m := by
  obtain ⟨r, hr, before, after, hbody, hreads, hder⟩ := h.rule
  obtain ⟨rest, rfl, hrest⟩ := hreads.exists_cons_of_next hcell
  refine ⟨h.origin_le.trans hkm, r, hr, before ++ [s], rest, by simp [hbody], hrest, ?_⟩
  exact between_append h.origin_le hkm ▸ hder.append hs

theorem derives_of_complete (h : i.Spans grammar g row k) {n : N}
    (hcell : g.cells[i.cell]? = some (.complete n)) :
    Derives grammar [.nonterminal n] (between row i.origin k) := by
  obtain ⟨r, hr, before, after, hbody, hreads, hder⟩ := h.rule
  obtain ⟨rfl, rfl⟩ := hreads.eq_nil_of_complete hcell
  rw [List.append_nil] at hbody
  exact .ofRule r.head hr (hbody ▸ hder)

theorem advance [DecidableEq T] (h : i.Spans grammar g row k) {t : T} (ht : row[k]? = some t)
    (hj : i.advance? g t = some j) : j.Spans grammar g row (k + 1) := by
  unfold Item.advance? at hj
  split at hj
  next u hcell =>
    split at hj
    next hut =>
      obtain rfl := Option.some.inj hj
      subst hut
      refine h.next hcell (Nat.le_succ k) ?_
      rw [between_succ le_rfl ht, between, List.drop_of_length_le (by simp)]
      exact .terminal u .nil
    next => cases hj
  next => cases hj

end Item.Spans

/-! ### Rows with optional terminals -/

section

variable {α : Type} {view : α → Option T} {isOptional : T → Bool}

/-- What is left of a row behind some terminals: an optional one may lack where no derivation goes
on with it. -/
inductive Settles (grammar : List (Rule N T)) (start : N) (view : α → Option T)
    (isOptional : T → Bool) : List T → List α → List α → Prop
  | nil {read : List T} : Settles grammar start view isOptional read [] []
  | unseen {read : List T} {a : α} {rest left : List α} : view a = none →
      Settles grammar start view isOptional read rest left →
      Settles grammar start view isOptional read (a :: rest) (a :: left)
  | kept {read : List T} {a : α} {t : T} {rest left : List α} : view a = some t →
      Settles grammar start view isOptional (read ++ [t]) rest left →
      Settles grammar start view isOptional read (a :: rest) (a :: left)
  | dropped {read : List T} {a : α} {t : T} {rest left : List α} : view a = some t →
      isOptional t = true →
      (∀ more, ¬Derives grammar [.nonterminal start] (read ++ t :: more)) →
      Settles grammar start view isOptional read rest left →
      Settles grammar start view isOptional read (a :: rest) left

theorem Settles.sublist {read : List T} {l left : List α}
    (h : Settles grammar start view isOptional read l left) : left.Sublist l := by
  induction h with
  | nil => exact .slnil
  | unseen _ _ ih => exact ih.cons_cons _
  | kept _ _ ih => exact ih.cons_cons _
  | dropped _ _ _ _ ih => exact ih.cons _

end

/-! ### What charts hold -/

theorem getD_push {α : Type} (sets : Array (List α)) (items : List α) (k : Nat) :
    (sets.push items).getD k [] = if k = sets.size then items else sets.getD k [] := by
  simp only [Array.getD_eq_getD_getElem?, Array.getElem?_push]
  split <;> rfl

theorem lt_size_of_mem_getD {α : Type} {sets : Array (List α)} {a : α} (h : a ∈ sets.getD k []) :
    k < sets.size := by
  by_contra hk
  simp [hk] at h

section

variable [DecidableEq T]

/-- The items of the positions so far: what they say is true, and they have all that follows from
them. -/
structure Charted (grammar : List (Rule N T)) (g : Layout N T) (start : N) (row : List T)
    (sets : Chart) : Prop where
  spans : ∀ k, ∀ i ∈ sets.getD k [], i.Spans grammar g row k
  started : 0 < sets.size → ∀ s ∈ g.starts start, ⟨s, 0⟩ ∈ sets.getD 0 []
  predicted : ∀ k, ∀ i ∈ sets.getD k [], ∀ n, g.cells[i.cell]? = some (.next (.nonterminal n)) →
    ∀ s ∈ g.starts n, ⟨s, k⟩ ∈ sets.getD k []
  completed : ∀ k, ∀ i ∈ sets.getD k [], ∀ n, g.cells[i.cell]? = some (.complete n) →
    i.origin < k → ∀ j ∈ sets.getD i.origin [],
      g.cells[j.cell]? = some (.next (.nonterminal n)) → ⟨j.cell + 1, j.origin⟩ ∈ sets.getD k []
  advanced : ∀ k, k + 1 < sets.size → ∀ t, row[k]? = some t →
    ∀ i ∈ sets.getD k [], ∀ j, i.advance? g t = some j → j ∈ sets.getD (k + 1) []

namespace Charted

theorem empty : Charted grammar g start row #[] := by
  constructor <;> simp

/-- A derivation leads from an item to one that has its symbols behind it. -/
theorem mem_of_derives (hg : g.Spells grammar) (hbodies : ∀ r ∈ grammar, r.body ≠ [])
    (h : Charted grammar g start row sets) (hsize : sets.size = row.length + 1)
    {symbols : List (Symbol N T)} {ts : List T} (hder : Derives grammar symbols ts) {head : N}
    {rest : List (Symbol N T)} (hreads : g.Reads head i.cell (symbols ++ rest))
    (hi : i ∈ sets.getD k []) {following : List T} (hrow : row.drop k = ts ++ following) :
    ⟨i.cell + symbols.length, i.origin⟩ ∈ sets.getD (k + ts.length) [] := by
  induction hder generalizing i k head rest following with
  | nil => exact hi
  | @terminal t symbols ts _ ih =>
    obtain ⟨hcell, hreads⟩ := hreads
    have ht : row[k]? = some t := getElem?_of_drop_eq_cons hrow
    have hk := (List.getElem?_eq_some_iff.mp ht).1
    have hnext : ⟨i.cell + 1, i.origin⟩ ∈ sets.getD (k + 1) [] :=
      h.advanced k (by omega) t ht i hi _ (by simp [Item.advance?, hcell])
    have hlast := ih hreads hnext (drop_succ_of_drop_eq_cons hrow)
    simpa [Nat.add_assoc, Nat.add_comm 1] using hlast
  | @nonterminal r symbols ts us hr hbody htail ihbody ihtail =>
    obtain ⟨hcell, hreads⟩ := hreads
    obtain ⟨s, hs, hbegin⟩ := hg.complete r hr
    rw [← List.append_nil r.body] at hbegin
    rw [List.append_assoc] at hrow
    have hcomplete := ihbody hbegin (h.predicted k i hi r.head hcell s hs) hrow
    -- No body is empty, so the rule began at an earlier position, where the item awaits its head.
    have hpos : 0 < ts.length :=
      (List.length_pos_iff.mpr (hbodies r hr)).trans_le (hbody.length_le hbodies)
    have hnext := h.completed _ _ hcomplete r.head hbegin.drop (by simpa using hpos) i hi hcell
    have hlast := ihtail hreads hnext (by rw [← List.drop_drop, hrow, List.drop_left])
    simpa [Nat.add_assoc, Nat.add_comm 1] using hlast

/-- A row with which a derivation begins leaves items at its end. -/
theorem ne_nil_of_derives (hg : g.Spells grammar) (hbodies : ∀ r ∈ grammar, r.body ≠ [])
    (h : Charted grammar g start row sets) (hsize : sets.size = row.length + 1)
    {symbols : List (Symbol N T)} {ts : List T} (hder : Derives grammar symbols ts) {head : N}
    {rest : List (Symbol N T)} (hreads : g.Reads head i.cell (symbols ++ rest))
    (hi : i ∈ sets.getD k []) (hk : k ≤ row.length) (hrow : row.drop k <+: ts) :
    sets.getD row.length [] ≠ [] := by
  induction hder generalizing i k head rest with
  | nil =>
    have hend : row.length ≤ k := List.drop_eq_nil_iff.mp (List.prefix_nil.mp hrow)
    exact List.ne_nil_of_mem (le_antisymm hk hend ▸ hi)
  | @terminal t symbols ts _ ih =>
    obtain ⟨hcell, hreads⟩ := hreads
    cases hdrop : row.drop k with
    | nil =>
      have hend : row.length ≤ k := List.drop_eq_nil_iff.mp hdrop
      exact List.ne_nil_of_mem (le_antisymm hk hend ▸ hi)
    | cons u more =>
      obtain ⟨rfl, hmore⟩ := List.cons_prefix_cons.mp (hdrop ▸ hrow)
      have hu : row[k]? = some u := getElem?_of_drop_eq_cons hdrop
      have hlt := (List.getElem?_eq_some_iff.mp hu).1
      have hnext : ⟨i.cell + 1, i.origin⟩ ∈ sets.getD (k + 1) [] :=
        h.advanced k (by omega) u hu i hi _ (by simp [Item.advance?, hcell])
      exact ih hreads hnext hlt (drop_succ_of_drop_eq_cons hdrop ▸ hmore)
  | @nonterminal r symbols ts us hr hbody htail ihbody ihtail =>
    obtain ⟨hcell, hreads⟩ := hreads
    obtain ⟨s, hs, hbegin⟩ := hg.complete r hr
    rw [← List.append_nil r.body] at hbegin
    have hstart := h.predicted k i hi r.head hcell s hs
    -- The row ends within what the rule derives, or behind it.
    rcases List.prefix_or_prefix_of_prefix hrow (List.prefix_append ts us) with hwithin | hbehind
    · exact ihbody hbegin hstart hk hwithin
    · obtain ⟨more, hmore⟩ := hbehind
      have hcomplete := h.mem_of_derives hg hbodies hsize hbody hbegin hstart hmore.symm
      have hpos : 0 < ts.length :=
        (List.length_pos_iff.mpr (hbodies r hr)).trans_le (hbody.length_le hbodies)
      have hnext := h.completed _ _ hcomplete r.head hbegin.drop (by simpa using hpos) i hi hcell
      have hlength : row.length - k = ts.length + more.length := by
        simpa using congrArg List.length hmore.symm
      refine ihtail hreads hnext (by omega) ?_
      rw [← List.drop_drop, ← hmore, List.drop_left]
      rwa [← hmore, List.prefix_append_right_inj] at hrow

/-- No derivation begins with a row that leaves no items at its end. -/
theorem not_derives_of_nil (hg : g.Spells grammar) (hbodies : ∀ r ∈ grammar, r.body ≠ [])
    (h : Charted grammar g start row (sets.push [])) (hsize : sets.size = row.length)
    (more : List T) : ¬Derives grammar [.nonterminal start] (row ++ more) := by
  intro hder
  obtain ⟨r, hr, rfl, hbody⟩ := hder.exists_rule
  obtain ⟨s, hs, hbegin⟩ := hg.complete r hr
  rw [← List.append_nil r.body] at hbegin
  refine h.ne_nil_of_derives hg hbodies (by simp [hsize]) hbody hbegin
    (h.started (by simp) s hs) (Nat.zero_le _) (List.prefix_append row more) ?_
  rw [getD_push, if_pos hsize.symm]

/-- The charts of a row are charts of a longer one, too. -/
theorem extend (h : Charted grammar g start row sets) (hsize : sets.size ≤ row.length + 1)
    (more : List T) : Charted grammar g start (row ++ more) sets where
  spans k i hi := by
    have := lt_size_of_mem_getD hi
    exact (h.spans k i hi).extend (by omega) more
  started := h.started
  predicted := h.predicted
  completed := h.completed
  advanced k hk t ht := h.advanced k hk t (by rwa [List.getElem?_append_left (by omega)] at ht)

end Charted

end

/-! ### Closing a position -/

section

variable [DecidableEq N]

theorem awaits_iff {n : N} :
    awaits g n i = true ↔ g.cells[i.cell]? = some (.next (.nonterminal n)) := by
  unfold awaits
  split <;> simp_all

theorem Item.Spans.consequence (hg : g.Spells grammar)
    (hsets : ∀ k, ∀ i ∈ sets.getD k [], i.Spans grammar g row k)
    (h : i.Spans grammar g row sets.size) (hj : j ∈ consequences g sets i) :
    j.Spans grammar g row sets.size := by
  unfold consequences at hj
  split at hj
  next n hcell =>
    obtain ⟨s, hs, rfl⟩ := List.mem_map.mp hj
    exact .of_start hg hs sets.size
  next n hcell =>
    obtain ⟨waiting, hwaiting, rfl⟩ := List.mem_map.mp hj
    obtain ⟨hmem, hawaits⟩ := List.mem_filter.mp hwaiting
    exact (hsets i.origin waiting hmem).next (awaits_iff.mp hawaits) h.origin_le
      (h.derives_of_complete hcell)
  next => cases hj

/-- A new position is closed, and what its items say is true. -/
theorem closure_position (hg : g.Spells grammar)
    (hsets : ∀ k, ∀ i ∈ sets.getD k [], i.Spans grammar g row k) {first : List Item}
    (hfirst : ∀ i ∈ first, i.Spans grammar g row sets.size) :
    IsClosed g sets first (closure g sets first) ∧
      ∀ i ∈ closure g sets first, i.Spans grammar g row sets.size :=
  closure_spec hfirst (fun _ hi _ hj => hi.consequence hg hsets hj)
    fun _ hi => ⟨hi.lt_size, hi.origin_le⟩

theorem IsClosed.predicted {first items : List Item} (h : IsClosed g sets first items)
    (hi : i ∈ items) {n : N} (hcell : g.cells[i.cell]? = some (.next (.nonterminal n))) {s : Nat}
    (hs : s ∈ g.starts n) : ⟨s, sets.size⟩ ∈ items :=
  h.closed i hi _ (by simpa [consequences, hcell] using hs)

theorem IsClosed.completed {first items : List Item} (h : IsClosed g sets first items)
    (hi : i ∈ items) {n : N} (hcell : g.cells[i.cell]? = some (.complete n))
    (hj : j ∈ sets.getD i.origin []) (hnext : g.cells[j.cell]? = some (.next (.nonterminal n))) :
    ⟨j.cell + 1, j.origin⟩ ∈ items := by
  refine h.closed i hi _ ?_
  simp only [consequences, hcell, List.mem_map, List.mem_filter]
  exact ⟨j, ⟨hj, awaits_iff.mpr hnext⟩, rfl⟩

end

/-! ### Runs -/

variable [DecidableEq N] [DecidableEq T]

namespace Charted

/-- At the end of the row a rule of the start is complete just when the grammar derives the row. -/
theorem accepts_iff (hg : g.Spells grammar) (hbodies : ∀ r ∈ grammar, r.body ≠ [])
    (h : Charted grammar g start row sets) (hsize : sets.size = row.length + 1) :
    accepts g start (sets.getD row.length []) = true ↔
      Derives grammar [.nonterminal start] row := by
  have hwhole : between row 0 row.length = row := by simp [between]
  have haccepts : accepts g start (sets.getD row.length []) = true ↔
      ∃ i ∈ sets.getD row.length [], i.origin = 0 ∧
        g.cells[i.cell]? = some (.complete start) := by
    rw [accepts, List.any_eq_true]
    refine exists_congr fun i => and_congr_right fun _ => ?_
    split <;> simp_all
  rw [haccepts]
  constructor
  · rintro ⟨i, hi, horigin, hcell⟩
    have hder := (h.spans _ i hi).derives_of_complete hcell
    rwa [horigin, hwhole] at hder
  · intro hder
    obtain ⟨r, hr, rfl, hbody⟩ := hder.exists_rule
    obtain ⟨s, hs, hbegin⟩ := hg.complete r hr
    rw [← List.append_nil r.body] at hbegin
    have hmem := h.mem_of_derives hg hbodies hsize hbody hbegin (h.started (by omega) s hs)
      (List.append_nil row).symm
    rw [Nat.zero_add] at hmem
    exact ⟨_, hmem, rfl, hbegin.drop⟩

/-- One more position is charted when it is closed from what begins or goes on there. -/
theorem push (hg : g.Spells grammar) (h : Charted grammar g start row sets) {first : List Item}
    (hfirst : ∀ i ∈ first, i.Spans grammar g row sets.size)
    (hstarted : sets.size = 0 → ∀ s ∈ g.starts start, ⟨s, 0⟩ ∈ first)
    (hadvanced : ∀ k, k + 1 = sets.size → ∀ t, row[k]? = some t →
      ∀ i ∈ sets.getD k [], ∀ j, i.advance? g t = some j → j ∈ first) :
    Charted grammar g start row (sets.push (closure g sets first)) := by
  obtain ⟨hclosed, hspans⟩ := closure_position hg h.spans hfirst
  constructor
  case spans =>
    intro k i hi
    rw [getD_push] at hi
    split at hi
    next hk => exact hk ▸ hspans i hi
    next => exact h.spans k i hi
  case started =>
    intro _ s hs
    rw [getD_push]
    split
    next hk => exact hclosed.subset _ (hstarted hk.symm s hs)
    next hk => exact h.started (Nat.pos_of_ne_zero (Ne.symm hk)) s hs
  case predicted =>
    intro k i hi n hcell s hs
    rw [getD_push] at hi ⊢
    split at hi
    next hk =>
      rw [if_pos hk, hk]
      exact hclosed.predicted hi hcell hs
    next hk =>
      rw [if_neg hk]
      exact h.predicted k i hi n hcell s hs
  case completed =>
    intro k i hi n hcell hlt j hj hnext
    rw [getD_push] at hi hj ⊢
    split at hi
    next hk =>
      rw [if_neg (by omega)] at hj
      rw [if_pos hk]
      exact hclosed.completed hi hcell hj hnext
    next hk =>
      have := lt_size_of_mem_getD hi
      rw [if_neg (by omega)] at hj
      rw [if_neg hk]
      exact h.completed k i hi n hcell hlt j hj hnext
  case advanced =>
    intro k hk t ht i hi j hij
    rw [Array.size_push] at hk
    rw [getD_push, if_neg (by omega)] at hi
    rw [getD_push]
    split
    next hlast => exact hclosed.subset j (hadvanced k hlast t ht i hi j hij)
    next hlast => exact h.advanced k (by omega) t ht i hi j hij

theorem advance (hg : g.Spells grammar) {items : List Item}
    (h : Charted grammar g start row (sets.push items)) (hsize : sets.size = row.length) (t : T) :
    Charted grammar g start (row ++ [t]) ((sets.push items).push
      (closure g (sets.push items) (items.filterMap (Item.advance? g t)))) := by
  have hlonger := h.extend (by simp [hsize]) [t]
  have ht : (row ++ [t])[sets.size]? = some t := by simp [hsize]
  have hitems : (sets.push items).getD sets.size [] = items := by rw [getD_push, if_pos rfl]
  have hfirst : ∀ j ∈ items.filterMap (Item.advance? g t),
      j.Spans grammar g (row ++ [t]) (sets.push items).size := by
    intro j hj
    obtain ⟨i, hi, hij⟩ := List.mem_filterMap.mp hj
    rw [Array.size_push]
    exact (hlonger.spans sets.size i (hitems.symm ▸ hi)).advance ht hij
  refine hlonger.push hg hfirst (by simp) fun k hk u hu i hi j hij => ?_
  obtain rfl : k = sets.size := by simpa using hk
  obtain rfl : t = u := Option.some.inj (ht.symm.trans hu)
  exact List.mem_filterMap.mpr ⟨i, hitems ▸ hi, hij⟩

end Charted

theorem charted_start (hg : g.Spells grammar) :
    Charted grammar g start []
      (Array.push #[] (closure g #[] ((g.starts start).map fun s => ⟨s, 0⟩))) := by
  refine Charted.empty.push hg ?_ (by simp) (by simp)
  simpa using fun s hs => Item.Spans.of_start hg hs 0

section

variable {α : Type} {view : α → Option T} {isOptional : T → Bool}

theorem settles_of_run (hg : g.Spells grammar) (hbodies : ∀ r ∈ grammar, r.body ≠ [])
    {items last : List Item} {l left : List α}
    (h : Charted grammar g start row (sets.push items)) (hsize : sets.size = row.length)
    (hrun : run g view isOptional sets items l = .ok (left, last)) :
    Settles grammar start view isOptional row l left ∧
      ∃ chart : Chart, Charted grammar g start (row ++ left.filterMap view) (chart.push last) ∧
        chart.size = (row ++ left.filterMap view).length := by
  fun_induction run g view isOptional sets items l generalizing row left with
  | case1 chart items =>
    cases hrun
    exact ⟨.nil, chart, by simpa using h, by simpa using hsize⟩
  | case2 chart items a rest hview ih =>
    cases hrest : run g view isOptional chart items rest with
    | error b => simp [hrest, Except.map] at hrun
    | ok p =>
      obtain ⟨rfl, rfl⟩ : a :: p.1 = left ∧ p.2 = last := by simpa [hrest, Except.map] using hrun
      obtain ⟨hsettles, hchart⟩ := ih h hsize hrest
      exact ⟨.unseen hview hsettles, by simpa [hview] using hchart⟩
  | case3 chart items a rest t hview longer hnil hoptional =>
    rename_i ih
    obtain ⟨hsettles, hchart⟩ := ih h hsize hrun
    have hnext := h.advance hg hsize t
    rw [hnil] at hnext
    refine ⟨.dropped hview hoptional (fun more => ?_) hsettles, hchart⟩
    simpa using hnext.not_derives_of_nil hg hbodies (by simp [hsize]) more
  | case4 => cases hrun
  | case5 chart items a rest t hview longer hne =>
    rename_i ih
    cases hrest : run g view isOptional longer
        (closure g longer (items.filterMap (Item.advance? g t))) rest with
    | error b => simp [hrest, Except.map] at hrun
    | ok p =>
      obtain ⟨rfl, rfl⟩ : a :: p.1 = left ∧ p.2 = last := by simpa [hrest, Except.map] using hrun
      obtain ⟨hsettles, hchart⟩ := ih (h.advance hg hsize t) (by simp [longer, hsize]) hrest
      exact ⟨.kept hview hsettles, by simpa [hview] using hchart⟩

/-- What is left of a row that is read is derived. -/
theorem settles_of_read (hg : g.Spells grammar) (hbodies : ∀ r ∈ grammar, r.body ≠ [])
    {l left : List α} (h : read g start view isOptional l = .ok left) :
    Settles grammar start view isOptional [] l left ∧
      Derives grammar [.nonterminal start] (left.filterMap view) := by
  simp only [read] at h
  split at h
  next => cases h
  next left' items hrun =>
    split at h
    next haccepts =>
      cases h
      obtain ⟨hsettles, chart, hchart, hsize⟩ :=
        settles_of_run hg hbodies (charted_start hg) rfl hrun
      rw [List.nil_append] at hchart hsize
      refine ⟨hsettles, (hchart.accepts_iff hg hbodies (by simp [hsize])).mp ?_⟩
      rwa [getD_push, if_pos hsize.symm]
    next => cases h

theorem exists_of_run_of_derives (isOptional : T → Bool) (hg : g.Spells grammar)
    (hbodies : ∀ r ∈ grammar, r.body ≠ []) {items : List Item} {l : List α}
    (h : Charted grammar g start row (sets.push items)) (hsize : sets.size = row.length)
    (hder : Derives grammar [.nonterminal start] (row ++ l.filterMap view)) :
    ∃ last, run g view isOptional sets items l = .ok (l, last) := by
  induction l generalizing sets items row with
  | nil => exact ⟨items, rfl⟩
  | cons a rest ih =>
    cases hview : view a with
    | none =>
      obtain ⟨last, hlast⟩ := ih h hsize (by simpa [hview] using hder)
      exact ⟨last, by simp [run, hview, hlast, Except.map]⟩
    | some t =>
      have hnext := h.advance hg hsize t
      have hder : Derives grammar [.nonterminal start] (row ++ [t] ++ rest.filterMap view) := by
        simpa [hview] using hder
      obtain ⟨last, hlast⟩ := ih hnext (by simp [hsize]) hder
      refine ⟨last, ?_⟩
      simp only [run, hview]
      split
      next hnil =>
        rw [hnil] at hnext
        exact absurd hder (hnext.not_derives_of_nil hg hbodies (by simp [hsize]) _)
      next => simp [hlast, Except.map]

/-- A row that is derived as it is is left as it is. -/
theorem read_eq_self_iff (hg : g.Spells grammar) (hbodies : ∀ r ∈ grammar, r.body ≠ [])
    {l : List α} : read g start view isOptional l = .ok l ↔
      Derives grammar [.nonterminal start] (l.filterMap view) := by
  refine ⟨fun h => (settles_of_read hg hbodies h).2, fun hder => ?_⟩
  obtain ⟨last, hrun⟩ := exists_of_run_of_derives isOptional hg hbodies (charted_start hg)
    rfl (by simpa using hder)
  obtain ⟨-, chart, hchart, hsize⟩ := settles_of_run hg hbodies (charted_start hg) rfl hrun
  rw [List.nil_append] at hchart hsize
  have haccepts := (hchart.accepts_iff hg hbodies (by simp [hsize])).mpr hder
  rw [getD_push, if_pos hsize.symm] at haccepts
  simp [read, hrun, haccepts]

end

end TagAtlas.Grammar
