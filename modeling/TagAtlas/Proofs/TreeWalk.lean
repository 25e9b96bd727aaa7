import Mathlib
import TagAtlas.Proofs.DictContents
import TagAtlas.Tree.Walk

/-!
# What a walk meets

A walk meets the files whose path it keeps from the start on, and nothing else. A folder is placed
by its name with a slash, so that what lies in it has its place among the siblings of the folder:
the files come in the strict order of their paths.
-/

namespace TagAtlas

def spelled (names : List String) : String := "/".intercalate names

theorem spelled_cons_of_ne_nil (name : String) {rest : List String} (h : rest ≠ []) :
    spelled (name :: rest) = name ++ "/" ++ spelled rest := by
  cases rest with
  | nil => exact absurd rfl h
  | cons next rest => exact String.intercalate_cons_cons

/-- What follows two texts leaves their order when they part before the first ends, or when nothing
follows the first. -/
theorem append_lt_append {l m x : List Char} (hlt : l < m) (hpart : x = [] ∨ ¬ l <+: m)
    (y : List Char) : l ++ x < m ++ y := by
  induction l generalizing m with
  | nil =>
    obtain rfl := hpart.resolve_right fun h => h List.nil_prefix
    cases m with
    | nil => exact absurd hlt (List.not_lt_nil _)
    | cons d m => exact List.nil_lt_cons d (m ++ y)
  | cons c l ih =>
    cases m with
    | nil => exact absurd hlt (List.not_lt_nil _)
    | cons d m =>
      rcases List.cons_lt_cons_iff.mp hlt with hcd | ⟨rfl, hrest⟩
      · exact List.cons_lt_cons_iff.mpr (.inl hcd)
      · have hpart : x = [] ∨ ¬ l <+: m :=
          hpart.imp_right fun h hl => h (List.cons_prefix_cons.mpr ⟨rfl, hl⟩)
        exact List.cons_lt_cons_iff.mpr (.inr ⟨rfl, ih hrest hpart⟩)

def Met.below (n : Nat) (m : Met) : String := spelled (m.path.drop n)

namespace Tree

/-- In every folder the names of the entries fall apart, and none holds a slash. -/
inductive Named : Tree → Prop
  | file (data : StoredFile) : Named (.file data)
  | folder {es : List (String × Tree)} (names : (es.map Prod.fst).Nodup)
      (slashless : ∀ e ∈ es, '/' ∉ e.1.toList) (below : ∀ e ∈ es, Named e.2) : Named (.folder es)

/-- A walk keeps every entry that lies along a row of names. -/
def KeptAlong {σ : Type} (p : Pruning σ) : σ → List String → Tree → List String → Prop
  | _, _, _, [] => True
  | known, path, t, name :: rest =>
    ∀ c, t.child? name = some c →
      p.keeps (p.enter known path t.entries) (path ++ [name]) c.isFolder = true ∧
        KeptAlong p (p.enter known path t.entries) (path ++ [name]) c rest

variable {σ : Type} {p : Pruning σ} {known : σ} {path : List String} {t : Tree}
  {es : List (String × Tree)} {m : Met}

theorem keptAlong_cons_iff {name : String} {c : Tree} (hc : t.child? name = some c)
    (rest : List String) : t.KeptAlong p known path (name :: rest) ↔
      p.keeps (p.enter known path t.entries) (path ++ [name]) c.isFolder = true ∧
        c.KeptAlong p (p.enter known path t.entries) (path ++ [name]) rest := by
  constructor
  · exact fun h => h c hc
  · intro h c' hc'
    exact Option.some.inj (hc.symm.trans hc') ▸ h

def visit (p : Pruning σ) (known : σ) (path : List String) (e : String × Tree) : Visited :=
  ⟨e.2.walkKey e.1, e.2.walk p known (path ++ [e.1])⟩

theorem walkEntries_eq (p : Pruning σ) (known : σ) (path : List String)
    (es : List (String × Tree)) : walkEntries p known path es =
      (es.filter fun e => p.keeps known (path ++ [e.1]) e.2.isFolder).map (visit p known path) := by
  induction es with
  | nil => rfl
  | cons e es ih =>
    obtain ⟨name, t⟩ := e
    rw [walkEntries, ih, List.filter_cons]
    dsimp only
    split <;> rfl

theorem mem_walk_folder : m ∈ (Tree.folder es).walk p known path ↔
    ∃ e ∈ es, p.keeps (p.enter known path es) (path ++ [e.1]) e.2.isFolder = true ∧
      m ∈ e.2.walk p (p.enter known path es) (path ++ [e.1]) := by
  rw [walk, Visited.inOrder, walkEntries_eq, List.mem_flatMap]
  constructor
  · rintro ⟨v, hv, hm⟩
    obtain ⟨e, he, rfl⟩ := List.mem_map.mp (List.mem_mergeSort.mp hv)
    obtain ⟨he, hkeeps⟩ := List.mem_filter.mp he
    exact ⟨e, he, hkeeps, hm⟩
  · rintro ⟨e, he, hkeeps, hm⟩
    have hkept : e ∈ es.filter fun e =>
        p.keeps (p.enter known path es) (path ++ [e.1]) e.2.isFolder :=
      List.mem_filter.mpr ⟨he, hkeeps⟩
    exact ⟨_, List.mem_mergeSort.mpr (List.mem_map_of_mem hkept), hm⟩

/-- A walk meets exactly the files along whose path it keeps every entry. -/
theorem mem_walk_iff (h : t.Named) : m ∈ t.walk p known path ↔
    ∃ rest, m.path = path ++ rest ∧ t.at? rest = some (.file m.data) ∧
      t.KeptAlong p known path rest := by
  induction h generalizing known path with
  | file data =>
    rw [walk, List.mem_singleton]
    constructor
    · rintro rfl
      exact ⟨[], (List.append_nil path).symm, rfl, trivial⟩
    · rintro ⟨rest, hpath, hat, -⟩
      cases rest with
      | nil =>
        obtain ⟨mpath, mdata⟩ := m
        cases hat
        exact congrArg (Met.mk · mdata) (hpath.trans (List.append_nil path))
      | cons name rest => cases hat
  | @folder es names slashless below ih =>
    have hchild : ∀ name c, (Tree.folder es).child? name = some c ↔ (name, c) ∈ es :=
      fun name c => Dict.lookup_eq_some_iff_mem names
    rw [mem_walk_folder]
    constructor
    · rintro ⟨⟨name, c⟩, he, hkeeps, hm⟩
      obtain ⟨rest, hpath, hat, hkept⟩ := (ih _ he).mp hm
      have hc := (hchild name c).mpr he
      refine ⟨name :: rest, ?_, ?_, (keptAlong_cons_iff hc rest).mpr ⟨hkeeps, hkept⟩⟩
      · rw [hpath, List.append_assoc, List.singleton_append]
      · rw [at?, hc, Option.bind_some, hat]
    · rintro ⟨rest, hpath, hat, hkept⟩
      cases rest with
      | nil => cases hat
      | cons name rest =>
        obtain ⟨c, hc, hat⟩ := Option.bind_eq_some_iff.mp hat
        obtain ⟨hkeeps, hkept⟩ := (keptAlong_cons_iff hc rest).mp hkept
        have he := (hchild name c).mp hc
        refine ⟨(name, c), he, hkeeps, (ih _ he).mpr ⟨rest, ?_, hat, hkept⟩⟩
        rw [hpath, List.append_assoc, List.singleton_append]

/-! ### The order of the files -/

theorem walkKey_toList (name : String) (t : Tree) : (t.walkKey name).toList =
    if t.isFolder then name.toList ++ ['/'] else name.toList := by
  unfold walkKey
  split
  · exact String.toList_append
  · rfl

/-- The place of an entry tells its name and whether it is a folder. -/
theorem name_eq_of_walkKey_eq {a b : String × Tree} (ha : '/' ∉ a.1.toList)
    (hb : '/' ∉ b.1.toList) (h : a.2.walkKey a.1 = b.2.walkKey b.1) : a.1 = b.1 := by
  have h := congrArg String.toList h
  have hslash : ∀ l : List Char, '/' ∈ l ++ ['/'] :=
    fun l => List.mem_append_right l List.mem_cons_self
  simp only [walkKey_toList] at h
  split at h <;> split at h
  · exact String.toList_inj.mp (List.append_cancel_right h)
  · exact absurd (h ▸ hslash _) hb
  · exact absurd (h.symm ▸ hslash _) ha
  · exact String.toList_inj.mp h

/-- The place of a folder begins no later place. -/
theorem not_prefix_of_walkKey_lt {a b : String × Tree} (hb : '/' ∉ b.1.toList)
    (hfolder : a.2.isFolder = true) (hlt : a.2.walkKey a.1 < b.2.walkKey b.1) :
    ¬ (a.2.walkKey a.1).toList <+: (b.2.walkKey b.1).toList := by
  intro h
  have hname : ¬ a.1.toList ++ ['/'] <+: b.1.toList := fun h =>
    hb (h.subset (List.mem_append_right _ List.mem_cons_self))
  rw [walkKey_toList, if_pos hfolder, walkKey_toList] at h
  split at h
  next hb' =>
    rcases List.prefix_concat_iff.mp h with h | h
    · have heq : a.2.walkKey a.1 = b.2.walkKey b.1 := String.toList_inj.mp (by
        rw [walkKey_toList, if_pos hfolder, walkKey_toList, if_pos hb', h])
      exact absurd hlt (heq ▸ lt_irrefl _)
    · exact hname h
  next => exact hname h

/-- What lies in an entry has the place of the entry, and its own place there. -/
theorem below_of_mem_walk {e : String × Tree} (h : e.2.Named)
    (hm : m ∈ e.2.walk p known (path ++ [e.1])) :
    m.below path.length = e.2.walkKey e.1 ++ m.below (path.length + 1) ∧
      (e.2.isFolder = false → m.below (path.length + 1) = "") := by
  obtain ⟨rest, hpath, hat, -⟩ := (mem_walk_iff h).mp hm
  have hpath : m.path = path ++ e.1 :: rest := by
    rw [hpath, List.append_assoc, List.singleton_append]
  have hbelow : m.below path.length = spelled (e.1 :: rest) := by
    rw [Met.below, hpath, List.drop_left]
  have hrest : m.below (path.length + 1) = spelled rest := by
    rw [Met.below, hpath, List.drop_append, List.drop_eq_nil_of_le (Nat.le_succ _),
      Nat.add_sub_cancel_left]
    rfl
  rw [hbelow, hrest]
  obtain ⟨name, t⟩ := e
  cases t with
  | file data =>
    cases rest with
    | nil => exact ⟨(String.append_empty).symm, fun _ => rfl⟩
    | cons next rest => cases hat
  | folder es =>
    cases rest with
    | nil => cases hat
    | cons next rest => exact ⟨spelled_cons_of_ne_nil name (List.cons_ne_nil _ _), nofun⟩

theorem below_lt_below {a b : String × Tree} (ha : a.2.Named) (hb : b.2.Named)
    (hslash : '/' ∉ b.1.toList) (hlt : a.2.walkKey a.1 < b.2.walkKey b.1) {x y : Met}
    (hx : x ∈ a.2.walk p known (path ++ [a.1])) (hy : y ∈ b.2.walk p known (path ++ [b.1])) :
    x.below path.length < y.below path.length := by
  obtain ⟨hxbelow, hxend⟩ := below_of_mem_walk ha hx
  rw [hxbelow, (below_of_mem_walk hb hy).1, String.lt_iff_toList_lt, String.toList_append,
    String.toList_append]
  refine append_lt_append (String.lt_iff_toList_lt.mp hlt) ?_ _
  cases hfolder : a.2.isFolder with
  | true => exact .inr (not_prefix_of_walkKey_lt hslash hfolder hlt)
  | false => exact .inl (congrArg String.toList (hxend hfolder))

/-- The entries of a folder in their order have later and later places. -/
theorem keys_pairwise {es kept : List (String × Tree)} (names : (es.map Prod.fst).Nodup)
    (slashless : ∀ e ∈ es, '/' ∉ e.1.toList) (hkept : kept.Sublist es) :
    ((kept.map (visit p known path)).mergeSort Visited.precedes).Pairwise
      fun u v => u.key < v.key := by
  refine pairwise_lt_mergeSort (fun _ _ => decide_eq_true_iff) ?_
  rw [List.map_map]
  have hnames : kept.Pairwise fun a b => a.1 ≠ b.1 :=
    List.pairwise_map.mp (names.sublist (hkept.map _))
  refine List.pairwise_map.mpr (hnames.imp_of_mem fun {a b} ha hb hab heq => hab ?_)
  exact name_eq_of_walkKey_eq (slashless a (hkept.subset ha)) (slashless b (hkept.subset hb)) heq

/-- A walk meets files in the strict order of their paths. -/
theorem walk_pairwise (h : t.Named) :
    (t.walk p known path).Pairwise fun a b => a.below path.length < b.below path.length := by
  induction h generalizing known path with
  | file data => exact List.pairwise_singleton _ _
  | @folder es names slashless below ih =>
    let kept := es.filter fun e => p.keeps (p.enter known path es) (path ++ [e.1]) e.2.isFolder
    let visited := kept.map (visit p (p.enter known path es) path)
    have hwalk : (Tree.folder es).walk p known path = (visited.mergeSort Visited.precedes).flatMap
        Visited.files := by
      rw [walk, walkEntries_eq]
      rfl
    have hmem : ∀ v ∈ visited.mergeSort Visited.precedes,
        ∃ e ∈ es, v = visit p (p.enter known path es) path e := by
      intro v hv
      obtain ⟨e, he, rfl⟩ := List.mem_map.mp (List.mem_mergeSort.mp hv)
      exact ⟨e, (List.mem_filter.mp he).1, rfl⟩
    have hkeys : (visited.mergeSort Visited.precedes).Pairwise fun u v => u.key < v.key :=
      keys_pairwise names slashless List.filter_sublist
    rw [hwalk, List.pairwise_flatMap]
    constructor
    · intro v hv
      obtain ⟨e, he, rfl⟩ := hmem v hv
      have hbelow : (e.2.walk p (p.enter known path es) (path ++ [e.1])).Pairwise
          fun a b => a.below (path ++ [e.1]).length < b.below (path ++ [e.1]).length := ih e he
      rw [List.length_append, List.length_singleton] at hbelow
      -- within an entry all paths begin with its place
      refine hbelow.imp_of_mem fun {x y} hx hy hxy => ?_
      rw [(below_of_mem_walk (below e he) hx).1, (below_of_mem_walk (below e he) hy).1,
        String.lt_iff_toList_lt, String.toList_append, String.toList_append]
      exact List.append_left_lt (String.lt_iff_toList_lt.mp hxy)
    · refine hkeys.imp_of_mem fun {u v} hu hv huv x hx y hy => ?_
      obtain ⟨a, ha, rfl⟩ := hmem u hu
      obtain ⟨b, hb, rfl⟩ := hmem v hv
      exact below_lt_below (below a ha) (below b hb) (slashless b hb) huv hx hy

end Tree

end TagAtlas
