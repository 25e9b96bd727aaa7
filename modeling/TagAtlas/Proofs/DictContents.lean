import Mathlib.Data.List.Nodup
import Mathlib.Data.List.Sort
import Mathlib.Data.String.Basic
import TagAtlas.Dict

/-!
# What a dictionary holds

The entries of a dictionary are exactly the pairs that looking up finds, so equal look-ups make
equal dictionaries. Each operation is described by what it does to look-ups, and to the values
that satisfy a test, which come in the order of their keys.
-/

namespace TagAtlas

theorem pairwise_le_mergeSort {α κ : Type} [LinearOrder κ] {le : α → α → Bool} {key : α → κ}
    (hle : ∀ a b, le a b = true ↔ key a ≤ key b) (l : List α) :
    (l.mergeSort le).Pairwise fun a b => key a ≤ key b := by
  have htrans : ∀ a b c, le a b = true → le b c = true → le a c = true := by
    simp only [hle]
    exact fun a b c => le_trans
  have htotal : ∀ a b, (le a b || le b a) = true := by
    simp only [Bool.or_eq_true, hle]
    exact fun a b => le_total _ _
  exact (List.pairwise_mergeSort htrans htotal l).imp fun hab => (hle _ _).mp hab

/-- Sorting by keys that fall apart leaves each key before the next. -/
theorem pairwise_lt_mergeSort {α κ : Type} [LinearOrder κ] {le : α → α → Bool} {key : α → κ}
    (hle : ∀ a b, le a b = true ↔ key a ≤ key b) {l : List α} (h : (l.map key).Nodup) :
    (l.mergeSort le).Pairwise fun a b => key a < key b := by
  have hne : (l.mergeSort le).Pairwise fun a b => key a ≠ key b :=
    List.pairwise_map.mp (((List.mergeSort_perm l le).map key).nodup_iff.mpr h)
  exact ((pairwise_le_mergeSort hle l).and hne).imp fun hab => lt_of_le_of_ne hab.1 hab.2

/-- Sorted lists are written alike when they hold the same texts under the same keys, and a key has
one text only. -/
theorem map_mergeSort_eq {α κ τ : Type} [LinearOrder κ] {le : α → α → Bool} {key : α → κ}
    (hle : ∀ a b, le a b = true ↔ key a ≤ key b) {text text' : α → τ} {l l' : List α}
    (hone : ∀ a ∈ l, ∀ b ∈ l, key a = key b → text a = text b)
    (hperm : (l.map fun a => (key a, text a)).Perm (l'.map fun a => (key a, text' a))) :
    (l.mergeSort le).map text = (l'.mergeSort le).map text' := by
  have hsorted : ∀ (m : List α) (f : α → τ),
      ((m.mergeSort le).map fun a => (key a, f a)).Pairwise fun x y => x.1 ≤ y.1 := fun m f =>
    List.pairwise_map.mpr (pairwise_le_mergeSort hle m)
  have hpairs := ((List.mergeSort_perm l le).map fun a => (key a, text a)).trans
    (hperm.trans ((List.mergeSort_perm l' le).map fun a => (key a, text' a)).symm)
  have heq : (l.mergeSort le).map (fun a => (key a, text a)) =
      (l'.mergeSort le).map (fun a => (key a, text' a)) := by
    refine hpairs.eq_of_pairwise (fun x y hx hy hxy hyx => ?_) (hsorted l text) (hsorted l' text')
    obtain ⟨a, ha, rfl⟩ := List.mem_map.mp hx
    obtain ⟨b, hb, rfl⟩ := List.mem_map.mp (hpairs.mem_iff.mpr hy)
    have hkey : key a = key b := le_antisymm hxy hyx
    rw [List.mem_mergeSort] at ha hb
    exact Prod.ext hkey (hone a ha b hb hkey)
  simpa only [List.map_map, Function.comp_def] using congrArg (List.map Prod.snd) heq

/-- Lists of the same items are sorted alike when a key belongs to one item only. -/
theorem mergeSort_eq_of_perm {α κ : Type} [LinearOrder κ] {le : α → α → Bool} {key : α → κ}
    (hle : ∀ a b, le a b = true ↔ key a ≤ key b) (hkey : Function.Injective key) {l l' : List α}
    (h : l.Perm l') : l.mergeSort le = l'.mergeSort le := by
  simpa using map_mergeSort_eq hle (fun a _ b _ hab => hkey hab) (h.map fun a => (key a, a))

/-- Of two lists in the same strict order, the one that has less is part of the other. -/
theorem sublist_of_pairwise {α : Type} {r : α → α → Prop} [Std.Asymm r] {l l' : List α}
    (h : l.Pairwise r) (h' : l'.Pairwise r) (hsub : l ⊆ l') : l.Sublist l' :=
  List.sublist_of_subperm_of_pairwise (List.subperm_of_subset h.nodup hsub) h h'

namespace Dict

variable {β γ : Type}

theorem lookup_eq_some_iff_mem {l : List (String × β)} (h : (l.map Prod.fst).Nodup)
    {key : String} {value : β} : l.lookup key = some value ↔ (key, value) ∈ l := by
  induction l with
  | nil => simp
  | cons e rest ih =>
    obtain ⟨name, old⟩ := e
    obtain ⟨hn, hr⟩ := List.nodup_cons.mp h
    by_cases hk : key = name
    · subst hk
      have hnot : ∀ v, (key, v) ∉ rest := fun v hv => hn (List.mem_map.mpr ⟨_, hv, rfl⟩)
      simp [hnot, eq_comm]
    · have hb : (key == name) = false := by simpa using hk
      simp [List.lookup_cons, hb, ih hr, hk]

theorem nodup_of_pairwise_lt {l : List String} (h : l.Pairwise (· < ·)) : l.Nodup := h.imp ne_of_lt

theorem keys_nodup (d : Dict β) : d.keys.Nodup := nodup_of_pairwise_lt d.ordered

theorem mem_entries_iff {d : Dict β} {key : String} {value : β} :
    (key, value) ∈ d.entries ↔ d.find? key = some value :=
  (lookup_eq_some_iff_mem d.keys_nodup).symm

theorem mem_values_iff {d : Dict β} {value : β} :
    value ∈ d.values ↔ ∃ key, d.find? key = some value := by
  simp [values, ← mem_entries_iff]

theorem mem_keys_iff {d : Dict β} {key : String} : key ∈ d.keys ↔ d.contains key = true := by
  simp [keys, contains, Option.isSome_iff_exists, ← mem_entries_iff]

/-- A dictionary is determined by its look-ups. -/
theorem ext_find? {a b : Dict β} (h : ∀ key, a.find? key = b.find? key) : a = b := by
  apply ext_entries
  have hmem : ∀ e, e ∈ a.entries ↔ e ∈ b.entries := by
    intro e
    rw [mem_entries_iff, mem_entries_iff, h]
  have hp : a.entries.Perm b.entries :=
    (List.perm_ext_iff_of_nodup (.of_map _ a.keys_nodup) (.of_map _ b.keys_nodup)).mpr hmem
  refine List.Perm.eq_of_pairwise ?_ (List.pairwise_map.mp a.ordered)
    (List.pairwise_map.mp b.ordered) hp
  intro x y _ _ hxy hyx
  exact absurd (String.lt_trans hxy hyx) (String.lt_irrefl _)

@[simp] theorem contains_insert (d : Dict β) (key k : String) (value : β) :
    (d.insert key value).contains k = (decide (k = key) || d.contains k) := by
  by_cases h : k = key <;> simp [contains, h]

/-- To bind a key to the value that it has changes nothing. -/
theorem insert_of_find? {d : Dict β} {key : String} {value : β} (h : d.find? key = some value) :
    d.insert key value = d := by
  apply ext_find?
  intro k
  by_cases hk : k = key <;> simp [hk, h]

@[simp] theorem find?_filter (d : Dict β) (p : String → β → Bool) (k : String) :
    (d.filter p).find? k = (d.find? k).filter (p k) := by
  ext value
  rw [← mem_entries_iff, Option.filter_eq_some_iff, ← mem_entries_iff]
  simp [filter]

@[simp] theorem find?_erase (d : Dict β) (key k : String) :
    (d.erase key).find? k = if k = key then none else d.find? k := by
  by_cases h : k = key
  · simp [erase, h]
  · cases hf : d.find? k <;> simp [erase, h, hf]

@[simp] theorem find?_mapValues (d : Dict β) (f : String → β → γ) (k : String) :
    (d.mapValues f).find? k = (d.find? k).map (f k) := by
  ext value
  rw [← mem_entries_iff, Option.map_eq_some_iff]
  simp only [mapValues, List.mem_map, Prod.mk.injEq, Prod.exists]
  constructor
  · rintro ⟨k', old, hm, rfl, rfl⟩
    exact ⟨old, mem_entries_iff.mp hm, rfl⟩
  · rintro ⟨old, hf, rfl⟩
    exact ⟨k, old, mem_entries_iff.mpr hf, rfl, rfl⟩

@[simp] theorem contains_mapValues (d : Dict β) (f : String → β → γ) (k : String) :
    (d.mapValues f).contains k = d.contains k := by
  simp [contains]

theorem mapValues_mapValues {δ : Type} (d : Dict β) (f : String → β → γ) (g : String → γ → δ) :
    (d.mapValues f).mapValues g = d.mapValues fun k v => g k (f k v) := by
  apply ext_find?
  intro k
  simp only [find?_mapValues, Option.map_map]
  rfl

theorem mapValues_insert (d : Dict β) (f : String → β → γ) (key : String) (value : β) :
    (d.insert key value).mapValues f = (d.mapValues f).insert key (f key value) := by
  apply ext_find?
  intro k
  by_cases h : k = key <;> simp [h]

theorem mapValues_erase (d : Dict β) (f : String → β → γ) (key : String) :
    (d.erase key).mapValues f = (d.mapValues f).erase key := by
  apply ext_find?
  intro k
  by_cases h : k = key <;> simp [h]

theorem mapValues_ofList (pairs : List (String × β)) (f : String → β → γ) :
    (ofList pairs).mapValues f = ofList (pairs.map fun e => (e.1, f e.1 e.2)) := by
  have go : ∀ (pairs : List (String × β)) (d : Dict β),
      (pairs.foldl (fun d e => d.insert e.1 e.2) d).mapValues f =
        (pairs.map fun e => (e.1, f e.1 e.2)).foldl (fun d e => d.insert e.1 e.2)
          (d.mapValues f) := by
    intro pairs
    induction pairs with
    | nil => exact fun d => rfl
    | cons e rest ih =>
      intro d
      rw [List.foldl_cons, ih, mapValues_insert]
      rfl
  exact go pairs .empty

theorem values_mapValues (d : Dict β) (f : β → γ) :
    (d.mapValues fun _ => f).values = d.values.map f := by
  simp [values, mapValues]

/-! ### Values that satisfy a test -/

/-- Binding a key changes nothing about the values that satisfy a test when neither the new value
nor the one that it replaces satisfies it. -/
theorem filter_values_insert (d : Dict β) (key : String) (value : β) (f : β → Bool)
    (hnew : f value = false) (hold : ∀ old, d.find? key = some old → f old = false) :
    (d.insert key value).values.filter f = d.values.filter f := by
  have go : ∀ l : List (String × β), (∀ old, l.lookup key = some old → f old = false) →
      ((insertEntry key value l).map Prod.snd).filter f = (l.map Prod.snd).filter f := by
    intro l h
    induction l with
    | nil => simp [insertEntry, hnew]
    | cons e rest ih =>
      obtain ⟨name, old⟩ := e
      simp only [insertEntry]
      split
      · simp [hnew]
      · split
        next heq =>
          have : f old = false := h old (by simp [heq])
          simp [hnew, this]
        next hne =>
          have hb : (key == name) = false := by simpa using hne
          have := ih fun o ho => h o (by simpa [List.lookup_cons, hb] using ho)
          simp only [List.map_cons, List.filter_cons, this]
  exact go d.entries hold

/-- Removing a key changes nothing about the values that satisfy a test when its value does not. -/
theorem filter_values_erase (d : Dict β) (key : String) (f : β → Bool)
    (hold : ∀ old, d.find? key = some old → f old = false) :
    (d.erase key).values.filter f = d.values.filter f := by
  have go : ∀ l : List (String × β), (∀ old, (key, old) ∈ l → f old = false) →
      ((l.filter fun e => decide (e.1 ≠ key)).map Prod.snd).filter f =
        (l.map Prod.snd).filter f := by
    intro l h
    induction l with
    | nil => rfl
    | cons e rest ih =>
      obtain ⟨name, old⟩ := e
      have hr := ih fun o ho => h o (List.mem_cons_of_mem _ ho)
      by_cases hk : name = key
      · have : f old = false := h old (by simp [hk])
        simpa [List.filter_cons, hk, this] using hr
      · simp only [List.filter_cons, hk, ne_eq, not_false_eq_true, decide_true, if_true,
          List.map_cons, hr]
  exact go d.entries fun old ho => hold old (mem_entries_iff.mp ho)

/-! ### Lists as dictionaries and sets -/

theorem find?_foldl_insert (pairs : List (String × β)) (d : Dict β) (k : String) :
    (pairs.foldl (fun d e => d.insert e.1 e.2) d).find? k =
      (pairs.reverse.lookup k).or (d.find? k) := by
  induction pairs generalizing d with
  | nil => simp
  | cons e rest ih =>
    obtain ⟨name, value⟩ := e
    rw [List.foldl_cons, ih, find?_insert, List.reverse_cons, List.lookup_append]
    by_cases h : k = name
    · cases rest.reverse.lookup k <;> simp [h]
    · have hb : (k == name) = false := by simpa using h
      simp [List.lookup_cons, hb, h]

theorem find?_ofList (pairs : List (String × β)) (k : String) :
    (ofList pairs).find? k = pairs.reverse.lookup k := by
  simp [ofList, find?_foldl_insert]

theorem find?_ofList_map (names : List String) (f : String → β) (k : String) :
    (ofList (names.map fun n => (n, f n))).find? k = if k ∈ names then some (f k) else none := by
  have hlookup : ∀ l : List String,
      (l.map fun n => (n, f n)).lookup k = if k ∈ l then some (f k) else none := by
    intro l
    induction l with
    | nil => rfl
    | cons n rest ih =>
      by_cases h : k = n
      · simp [h]
      · have hb : (k == n) = false := by simpa using h
        simp [List.lookup_cons, hb, ih, h]
  rw [find?_ofList, ← List.map_reverse, hlookup]
  simp only [List.mem_reverse]

@[simp] theorem ofList_entries (d : Dict β) : ofList d.entries = d := by
  apply ext_find?
  intro k
  have hn : (d.entries.reverse.map Prod.fst).Nodup := by
    rw [List.map_reverse]
    exact List.nodup_reverse.mpr d.keys_nodup
  ext value
  rw [find?_ofList, lookup_eq_some_iff_mem hn, List.mem_reverse, mem_entries_iff]

@[simp] theorem mem_sortedSet {names : List String} {k : String} :
    k ∈ sortedSet names ↔ k ∈ names := by
  rw [sortedSet, mem_keys_iff, contains, find?_ofList]
  simp

theorem sortedSet_eq_nil_iff {names : List String} : sortedSet names = [] ↔ names = [] := by
  simp only [List.eq_nil_iff_forall_not_mem, mem_sortedSet]

theorem sortedSet_pairwise (names : List String) : (sortedSet names).Pairwise (· < ·) :=
  (ofList _).ordered

theorem sortedSet_nodup (names : List String) : (sortedSet names).Nodup :=
  (ofList _).keys_nodup

/-- Increasing lists with the same members are equal. -/
theorem eq_of_pairwise_of_mem_iff {a b : List String} (ha : a.Pairwise (· < ·))
    (hb : b.Pairwise (· < ·)) (h : ∀ k, k ∈ a ↔ k ∈ b) : a = b :=
  (sublist_of_pairwise ha hb fun k => (h k).mp).antisymm
    (sublist_of_pairwise hb ha fun k => (h k).mpr)

end Dict

end TagAtlas
