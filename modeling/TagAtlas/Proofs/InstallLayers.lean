import TagAtlas.Plan.Order
import TagAtlas.Proofs.GraphPaths

/-!
# Layers of modules that wait for nothing

While modules are installed, in any order, the counter of each other module is the number of modules
it still waits for; so no counter that is zero is lowered. A layer then holds the modules that wait
for installed modules only. Hence the number of its layer is a rank of a module, and a module that
is never ready waits for another one.
-/

namespace TagAtlas.InstallOrder

variable {needs : Adjacency} {required installed names : List String} {c : Counters}
  {m d x : String} {i : Nat}

theorem mem_awaited_iff :
    d ∈ awaited needs required m ↔ needs.Edge m d ∧ d ∈ required ∧ d ≠ m := by
  simp [awaited, Adjacency.Edge]

theorem awaited_nodup (needs : Adjacency) (required : List String) (m : String) :
    (awaited needs required m).Nodup := Dict.sortedSet_nodup _

theorem mem_waiting_iff :
    m ∈ waiting needs required x ↔ m ∈ required ∧ x ∈ awaited needs required m := by
  simp [waiting]

/-! ### Lowering counters -/

@[simp] theorem find?_remove (c : Counters) (name k : String) :
    ((Change.remove name).apply c).find? k = if k = name then none else c.find? k :=
  Dict.find?_erase c name k

@[simp] theorem find?_lower (c : Counters) (name k : String) :
    ((Change.lower name).apply c).find? k =
      (c.find? k).map fun n => if k = name then n - 1 else n := by
  cases h : c.find? name with
  | none => by_cases hk : k = name <;> simp [Change.apply, h, hk]
  | some n => by_cases hk : k = name <;> simp [Change.apply, h, hk]

theorem find?_foldl_lower (hn : names.Nodup) (c : Counters) (k : String) :
    ((names.map Change.lower).foldl Change.apply c).find? k =
      (c.find? k).map fun n => if k ∈ names then n - 1 else n := by
  induction names generalizing c with
  | nil => simp
  | cons name rest ih =>
    obtain ⟨hnot, hrest⟩ := List.nodup_cons.mp hn
    rw [List.map_cons, List.foldl_cons, ih hrest, find?_lower]
    by_cases hk : k = name
    · subst hk
      cases c.find? k <;> simp [hnot]
    · cases c.find? k <;> simp [hk]

/-- No change lowers a counter that is zero or less at that moment. -/
def Positive : Counters → List Change → Prop
  | _, [] => True
  | c, .remove name :: rest => Positive ((Change.remove name).apply c) rest
  | c, .lower name :: rest =>
    (∀ n, c.find? name = some n → 0 < n) ∧ Positive ((Change.lower name).apply c) rest

theorem positive_append {before after : List Change} :
    Positive c (before ++ after) ↔
      Positive c before ∧ Positive (before.foldl Change.apply c) after := by
  induction before generalizing c with
  | nil => simp [Positive]
  | cons change rest ih =>
    cases change with
    | remove name => simp [Positive, ih]
    | lower name => simp [Positive, ih, and_assoc]

theorem positive_lower (hn : names.Nodup)
    (hpos : ∀ name ∈ names, ∀ n, c.find? name = some n → 0 < n) :
    Positive c (names.map Change.lower) := by
  induction names generalizing c with
  | nil => trivial
  | cons name rest ih =>
    obtain ⟨hnot, hrest⟩ := List.nodup_cons.mp hn
    refine ⟨hpos name List.mem_cons_self, ih hrest ?_⟩
    intro k hk n hf
    have hne : k ≠ name := fun he => hnot (he ▸ hk)
    exact hpos k (List.mem_cons_of_mem _ hk) n (by simpa [hne] using hf)

/-! ### What the counters count -/

def missing (needs : Adjacency) (required installed : List String) (m : String) : List String :=
  (awaited needs required m).filter fun d => d ∉ installed

theorem mem_missing_iff :
    d ∈ missing needs required installed m ↔ d ∈ awaited needs required m ∧ d ∉ installed := by
  simp [missing]

theorem missing_nodup : (missing needs required installed m).Nodup :=
  (awaited_nodup needs required m).filter _

theorem missing_concat :
    missing needs required (installed ++ [x]) m = (missing needs required installed m).erase x := by
  rw [missing_nodup.erase_eq_filter]
  unfold missing
  rw [List.filter_filter]
  refine List.filter_congr fun d _ => ?_
  by_cases he : d = x <;> simp [he]

/-- Each counter says how many modules its module still waits for. -/
def Counting (needs : Adjacency) (required installed : List String) (c : Counters) : Prop :=
  ∀ m, c.find? m = if m ∈ required ∧ m ∉ installed then
    some ((missing needs required installed m).length : Int) else none

theorem counting_counters : Counting needs required [] (counters needs required) := by
  intro m
  unfold counters
  rw [Dict.find?_ofList_map]
  simp [missing]

/-- An installation leaves one module less to wait for, where it was waited for. -/
theorem length_missing_concat (hm : m ∈ required) (hx : x ∉ installed) :
    ((missing needs required (installed ++ [x]) m).length : Int) =
      if m ∈ waiting needs required x then ((missing needs required installed m).length : Int) - 1
      else ((missing needs required installed m).length : Int) := by
  rw [missing_concat]
  split
  next hw =>
    have hmem : x ∈ missing needs required installed m :=
      mem_missing_iff.mpr ⟨(mem_waiting_iff.mp hw).2, hx⟩
    have hlen := List.length_erase_of_mem hmem
    have hpos := List.length_pos_of_mem hmem
    omega
  next hw =>
    have hnot : x ∉ missing needs required installed m := fun hmiss =>
      hw (mem_waiting_iff.mpr ⟨hm, (mem_missing_iff.mp hmiss).1⟩)
    rw [List.erase_of_not_mem hnot]

theorem Counting.install_one (h : Counting needs required installed c) (hn : required.Nodup)
    (hx : x ∉ installed) :
    Counting needs required (installed ++ [x])
      ((changesOf needs required x).foldl Change.apply c) := by
  have hwaiting : (waiting needs required x).Nodup := hn.filter _
  intro m
  rw [changesOf, List.foldl_cons, find?_foldl_lower hwaiting, find?_remove, h m]
  by_cases hm : m = x
  · simp [hm]
  · rw [if_neg hm]
    by_cases hopen : m ∈ required ∧ m ∉ installed
    · have hopen' : m ∈ required ∧ m ∉ installed ++ [x] := by simp [hm, hopen]
      rw [if_pos hopen, if_pos hopen', Option.map_some, length_missing_concat hopen.1 hx]
    · have hopen' : ¬ (m ∈ required ∧ m ∉ installed ++ [x]) := by
        simp only [List.mem_append, not_or] at hopen ⊢
        exact fun hboth => hopen ⟨hboth.1, hboth.2.1⟩
      rw [if_neg hopen, if_neg hopen', Option.map_none]

/-- A module that waits for another one has a counter above zero. -/
theorem Counting.positive_changesOf (h : Counting needs required installed c) (hn : required.Nodup)
    (hx : x ∉ installed) : Positive c (changesOf needs required x) := by
  have hwaiting : (waiting needs required x).Nodup := hn.filter _
  refine positive_lower hwaiting fun m hm n hf => ?_
  have hmem : x ∈ missing needs required installed m :=
    mem_missing_iff.mpr ⟨(mem_waiting_iff.mp hm).2, hx⟩
  have hpos := List.length_pos_of_mem hmem
  rw [find?_remove, h m] at hf
  split at hf
  next => cases hf
  next =>
    split at hf
    next =>
      have hcount : ((missing needs required installed m).length : Int) = n := by simpa using hf
      omega
    next => cases hf

/-- Modules may be installed in any order, each once. -/
theorem Counting.install (h : Counting needs required installed c) (hn : required.Nodup)
    (hnames : names.Nodup) (hfresh : ∀ x ∈ names, x ∉ installed) :
    Counting needs required (installed ++ names)
        ((names.flatMap (changesOf needs required)).foldl Change.apply c) ∧
      Positive c (names.flatMap (changesOf needs required)) := by
  induction names generalizing installed c with
  | nil => simpa [Positive] using h
  | cons x rest ih =>
    obtain ⟨hx, hrest⟩ := List.nodup_cons.mp hnames
    have hnew : x ∉ installed := hfresh x List.mem_cons_self
    have hcount := h.install_one hn hnew
    have hpos := h.positive_changesOf hn hnew
    have hfresh' : ∀ y ∈ rest, y ∉ installed ++ [x] := by
      intro y hy hm
      rcases List.mem_append.mp hm with hi | he
      · exact hfresh y (List.mem_cons_of_mem _ hy) hi
      · exact hx (List.mem_singleton.mp he ▸ hy)
    obtain ⟨hcount', hpos'⟩ := ih hcount hrest hfresh'
    rw [List.flatMap_cons, List.foldl_append, positive_append]
    exact ⟨by simpa using hcount', hpos, hpos'⟩

/-! ### Layers -/

/-- A module that is not installed and waits for installed modules only. -/
def Ready (needs : Adjacency) (required installed : List String) (m : String) : Prop :=
  m ∈ required ∧ m ∉ installed ∧ ∀ d ∈ awaited needs required m, d ∈ installed

theorem Counting.mem_ready_iff (h : Counting needs required installed c) :
    m ∈ ready c ↔ Ready needs required installed m := by
  have hzero : m ∈ ready c ↔ c.find? m = some 0 := by
    unfold ready
    rw [Dict.mem_keys_iff, Dict.contains, Dict.find?_filter]
    cases c.find? m <;> simp
  have hnil : missing needs required installed m = [] ↔
      ∀ d ∈ awaited needs required m, d ∈ installed := by
    simp [missing, List.filter_eq_nil_iff]
  rw [hzero, h m, Ready, ← hnil]
  by_cases hopen : m ∈ required ∧ m ∉ installed
  · simp [hopen]
  · rw [if_neg hopen]
    exact ⟨fun hf => by simp at hf, fun hr => absurd ⟨hr.1, hr.2.1⟩ hopen⟩

/-- Layers of modules, each with all that are ready, until none is ready. -/
inductive Layered (needs : Adjacency) (required : List String) :
    List String → List (List String) → Prop
  | stop {installed : List String} (h : ∀ m, ¬ Ready needs required installed m) :
      Layered needs required installed []
  | layer {installed names : List String} {later : List (List String)}
      (hmem : ∀ m, m ∈ names ↔ Ready needs required installed m)
      (hsorted : names.Pairwise (· < ·)) (hlater : Layered needs required (installed ++ names) later) :
      Layered needs required installed (names :: later)

theorem layers_spec (hn : required.Nodup) (h : Counting needs required installed c) :
    Layered needs required installed (layers needs required c).1 ∧
      Counting needs required (installed ++ (layers needs required c).1.flatten)
        (layers needs required c).2 ∧
      Positive c ((layers needs required c).1.flatten.flatMap (changesOf needs required)) := by
  induction c using layers.induct needs required generalizing installed with
  | case1 c hempty =>
    rw [layers, if_pos hempty]
    have hnil : ready c = [] := by simpa using hempty
    refine ⟨.stop fun m hm => ?_, by simpa using h, by simp [Positive]⟩
    simpa [hnil] using h.mem_ready_iff.mpr hm
  | case2 c hne ih =>
    rw [layers, if_neg hne]
    have hsorted : (ready c).Pairwise (· < ·) := (c.filter _).ordered
    have hfresh : ∀ x ∈ ready c, x ∉ installed := fun x hx => (h.mem_ready_iff.mp hx).2.1
    obtain ⟨hcount, hpos⟩ := h.install hn (Dict.nodup_of_pairwise_lt hsorted) hfresh
    obtain ⟨hlater, hend, hpos'⟩ := ih hcount
    refine ⟨.layer (fun m => h.mem_ready_iff) hsorted hlater, ?_, ?_⟩
    · simpa using hend
    · simp only [List.flatten_cons, List.flatMap_append, positive_append]
      exact ⟨hpos, hpos'⟩

/-- The changes of all layers, one after another, lead to the last counters. -/
theorem layers_snd_eq (needs : Adjacency) (required : List String) (c : Counters) :
    (layers needs required c).2 =
      ((layers needs required c).1.flatten.flatMap (changesOf needs required)).foldl
        Change.apply c := by
  induction c using layers.induct needs required with
  | case1 c hempty =>
    rw [layers, if_pos hempty]
    rfl
  | case2 c hne ih =>
    rw [layers, if_neg hne]
    simp only [List.flatten_cons, List.flatMap_append, List.foldl_append]
    exact ih

def InLayer (layers : List (List String)) (m : String) (i : Nat) : Prop :=
  ∃ names, layers[i]? = some names ∧ m ∈ names

namespace InLayer

variable {later : List (List String)}

theorem zero_iff : InLayer (names :: later) m 0 ↔ m ∈ names := by simp [InLayer]

theorem succ_iff : InLayer (names :: later) m (i + 1) ↔ InLayer later m i := by simp [InLayer]

theorem mem_flatten (h : InLayer later m i) : m ∈ later.flatten := by
  obtain ⟨names, hget, hm⟩ := h
  exact List.mem_flatten.mpr ⟨names, List.mem_of_getElem? hget, hm⟩

theorem exists_of_mem_flatten (h : m ∈ later.flatten) : ∃ i, InLayer later m i := by
  obtain ⟨names, hnames, hm⟩ := List.mem_flatten.mp h
  obtain ⟨i, hi⟩ := List.getElem?_of_mem hnames
  exact ⟨i, names, hi, hm⟩

end InLayer

namespace Layered

variable {layers : List (List String)}

theorem mem_required (h : Layered needs required installed layers) (hm : m ∈ layers.flatten) :
    m ∈ required ∧ m ∉ installed := by
  induction h with
  | stop => simp at hm
  | @layer installed names later hmem _ _ ih =>
    rcases List.mem_append.mp (List.flatten_cons ▸ hm) with hm | hm
    · exact ⟨((hmem m).mp hm).1, ((hmem m).mp hm).2.1⟩
    · obtain ⟨hr, hnot⟩ := ih hm
      exact ⟨hr, fun hi => hnot (List.mem_append_left _ hi)⟩

theorem nodup_flatten (h : Layered needs required installed layers) : layers.flatten.Nodup := by
  induction h with
  | stop => exact .nil
  | @layer installed names later _ hsorted hlater ih =>
    rw [List.flatten_cons]
    refine List.nodup_append'.mpr ⟨Dict.nodup_of_pairwise_lt hsorted, ih, ?_⟩
    exact fun m hm hlate => (hlater.mem_required hlate).2 (List.mem_append_right _ hm)

/-- All that a module waits for is in an earlier layer. -/
theorem awaited_earlier (h : Layered needs required installed layers) (hm : InLayer layers m i)
    (hd : d ∈ awaited needs required m) : d ∈ installed ∨ ∃ j, InLayer layers d j ∧ j < i := by
  induction h generalizing i with
  | stop => exact absurd hm.mem_flatten (by simp)
  | @layer installed names later hmem _ _ ih =>
    cases i with
    | zero => exact .inl (((hmem m).mp (InLayer.zero_iff.mp hm)).2.2 d hd)
    | succ i =>
      rcases ih (InLayer.succ_iff.mp hm) with hi | ⟨j, hj, hlt⟩
      · rcases List.mem_append.mp hi with hi | hname
        · exact .inl hi
        · exact .inr ⟨0, InLayer.zero_iff.mpr hname, by omega⟩
      · exact .inr ⟨j + 1, InLayer.succ_iff.mpr hj, by omega⟩

/-- A module that is not in the first layer waits for one in the layer just before its own. -/
theorem exists_awaited (h : Layered needs required installed layers)
    (hm : InLayer layers m (i + 1)) :
    ∃ d ∈ awaited needs required m, InLayer layers d i := by
  induction h generalizing i with
  | stop => exact absurd hm.mem_flatten (by simp)
  | @layer installed names later hmem _ hlater ih =>
    have hlate : InLayer later m i := InLayer.succ_iff.mp hm
    cases i with
    | succ i =>
      obtain ⟨d, hd, hlayer⟩ := ih hlate
      exact ⟨d, hd, InLayer.succ_iff.mpr hlayer⟩
    | zero =>
      obtain ⟨hr, hnot⟩ := hlater.mem_required hlate.mem_flatten
      have hnames : m ∉ names := fun hn => hnot (List.mem_append_right _ hn)
      have hinst : m ∉ installed := fun hi => hnot (List.mem_append_left _ hi)
      -- it was not ready for the first layer, so it waited for something that this layer installs
      have hwaits : ¬ ∀ d ∈ awaited needs required m, d ∈ installed :=
        fun hall => hnames ((hmem m).mpr ⟨hr, hinst, hall⟩)
      simp only [not_forall] at hwaits
      obtain ⟨d, hd, hdi⟩ := hwaits
      refine ⟨d, hd, InLayer.zero_iff.mpr ?_⟩
      rcases (Layered.layer hmem ‹_› hlater).awaited_earlier hm hd with hi | ⟨j, hj, hlt⟩
      · exact absurd hi hdi
      · obtain rfl : j = 0 := by omega
        exact InLayer.zero_iff.mp hj

/-- A module that is in no layer waits for another such module. -/
theorem exists_stuck (h : Layered needs required installed layers) (hr : m ∈ required)
    (hm : m ∉ installed ++ layers.flatten) :
    ∃ d ∈ awaited needs required m, d ∉ installed ++ layers.flatten := by
  induction h with
  | @stop installed hnone =>
    by_contra hall
    simp only [not_exists, not_and, not_not, List.flatten_nil, List.append_nil] at hall hm
    exact hnone m ⟨hr, hm, hall⟩
  | @layer installed names later _ _ _ ih =>
    simp only [List.flatten_cons, ← List.append_assoc] at hm ⊢
    exact ih hm

theorem ranking (h : Layered needs required [] layers) :
    Ranking (fun m d => d ∈ awaited needs required m) (InLayer layers) where
  falls m i d hm hd := by
    rcases h.awaited_earlier hm hd with hi | hlt
    · simp at hi
    · exact hlt
  attained m i hm := h.exists_awaited hm

end Layered

end TagAtlas.InstallOrder
