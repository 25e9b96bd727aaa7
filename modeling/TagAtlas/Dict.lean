/-!
# Dictionaries with text keys

A `Dict` lists its entries in increasing key order, each key once. The order is part of the
type, so two dictionaries with the same bindings are equal, and every listing of one is sorted.
-/

namespace TagAtlas

/-- Entries in strictly increasing order of their keys. -/
structure Dict (β : Type) where
  entries : List (String × β)
  ordered : (entries.map Prod.fst).Pairwise (· < ·)

namespace Dict

variable {β γ : Type}

theorem lt_of_not_lt_of_ne {a b : String} (h : ¬ a < b) (hne : a ≠ b) : b < a :=
  Std.lt_of_le_of_ne h (Ne.symm hne)

/-- Places a binding in a sorted list of entries, replacing the one that is there. -/
def insertEntry (key : String) (value : β) : List (String × β) → List (String × β)
  | [] => [(key, value)]
  | e :: rest =>
    if key < e.1 then (key, value) :: e :: rest
    else if key = e.1 then (key, value) :: rest
    else e :: insertEntry key value rest

theorem mem_keys_insertEntry {key k : String} {value : β} {l : List (String × β)}
    (h : k ∈ (insertEntry key value l).map Prod.fst) : k = key ∨ k ∈ l.map Prod.fst := by
  induction l with
  | nil => simpa [insertEntry] using h
  | cons e rest ih =>
    unfold insertEntry at h
    split at h
    · simpa using h
    · split at h
      · simp only [List.map_cons, List.mem_cons] at h ⊢
        rcases h with h | h
        · exact .inl h
        · exact .inr (.inr h)
      · simp only [List.map_cons, List.mem_cons] at h ⊢
        rcases h with h | h
        · exact .inr (.inl h)
        · rcases ih h with h | h
          · exact .inl h
          · exact .inr (.inr h)

theorem ordered_insertEntry (key : String) (value : β) {l : List (String × β)}
    (h : (l.map Prod.fst).Pairwise (· < ·)) :
    ((insertEntry key value l).map Prod.fst).Pairwise (· < ·) := by
  induction l with
  | nil => simp [insertEntry]
  | cons e rest ih =>
    have hp := List.pairwise_cons.mp h
    unfold insertEntry
    split
    next hlt =>
      refine List.pairwise_cons.mpr ⟨?_, h⟩
      intro k hk
      rcases List.mem_cons.mp hk with rfl | hk
      · exact hlt
      · exact String.lt_trans hlt (hp.1 k hk)
    next hnlt =>
      split
      next heq =>
        subst heq
        exact List.pairwise_cons.mpr ⟨hp.1, hp.2⟩
      next hne =>
        refine List.pairwise_cons.mpr ⟨?_, ih hp.2⟩
        intro k hk
        rcases mem_keys_insertEntry hk with rfl | hk
        · exact lt_of_not_lt_of_ne hnlt hne
        · exact hp.1 k hk

def empty : Dict β := ⟨[], .nil⟩

instance : Inhabited (Dict β) := ⟨empty⟩

instance [DecidableEq β] : DecidableEq (Dict β) := fun a b =>
  if h : a.entries = b.entries then
    .isTrue (by cases a; cases b; cases h; rfl)
  else .isFalse (fun he => h (congrArg Dict.entries he))

theorem ext_entries {a b : Dict β} (h : a.entries = b.entries) : a = b := by
  cases a; cases b; cases h; rfl

def insert (d : Dict β) (key : String) (value : β) : Dict β :=
  ⟨insertEntry key value d.entries, ordered_insertEntry key value d.ordered⟩

def find? (d : Dict β) (key : String) : Option β := d.entries.lookup key

def contains (d : Dict β) (key : String) : Bool := (d.find? key).isSome

def keys (d : Dict β) : List String := d.entries.map Prod.fst

def values (d : Dict β) : List β := d.entries.map Prod.snd

def size (d : Dict β) : Nat := d.entries.length

def isEmpty (d : Dict β) : Bool := d.entries.isEmpty

def filter (p : String → β → Bool) (d : Dict β) : Dict β :=
  ⟨d.entries.filter fun e => p e.1 e.2,
    d.ordered.sublist ((List.filter_sublist).map Prod.fst)⟩

def erase (d : Dict β) (key : String) : Dict β := d.filter fun k _ => k ≠ key

def mapValues (f : String → β → γ) (d : Dict β) : Dict γ :=
  ⟨d.entries.map fun e => (e.1, f e.1 e.2), by
    have h : (d.entries.map fun e => (e.1, f e.1 e.2)).map Prod.fst = d.entries.map Prod.fst := by
      simp [Function.comp_def]
    rw [h]
    exact d.ordered⟩

/-- Changes the value of a key; an unbound key starts from a default. -/
def update (d : Dict β) (key : String) (default : β) (f : β → β) : Dict β :=
  d.insert key (f ((d.find? key).getD default))

/-- Binds the pairs one after another, so the last of equal keys wins. -/
def ofList (pairs : List (String × β)) : Dict β :=
  pairs.foldl (fun d e => d.insert e.1 e.2) empty

/-- A listed text as a set: increasing order, no repetition. -/
def sortedSet (names : List String) : List String :=
  (ofList (names.map fun n => (n, ()))).keys

theorem lookup_insertEntry (key : String) (value : β) (l : List (String × β)) (k : String) :
    (insertEntry key value l).lookup k = if k = key then some value else l.lookup k := by
  have hb (x : String) : (k == x) = decide (k = x) := rfl
  induction l with
  | nil => by_cases h : k = key <;> simp [insertEntry, List.lookup_cons, hb, h]
  | cons e rest ih =>
    obtain ⟨name, old⟩ := e
    simp only [insertEntry]
    split
    · by_cases h : k = key <;> simp [List.lookup_cons, hb, h]
    · split
      next heq => subst heq; by_cases h : k = key <;> simp [List.lookup_cons, hb, h]
      next hne =>
        by_cases h : k = key
        · subst h
          simp [List.lookup_cons, hb, hne, ih]
        · simp [List.lookup_cons, ih, h]

theorem lookup_eq_none_of_lt {key : String} {l : List (String × β)}
    (h : ∀ k ∈ l.map Prod.fst, key < k) : l.lookup key = none := by
  induction l with
  | nil => rfl
  | cons e rest ih =>
    obtain ⟨name, old⟩ := e
    have hne : (key == name) = false := by
      have hlt : key < name := h name (by simp)
      have hn : key ≠ name := fun he => String.lt_irrefl name (he ▸ hlt)
      simpa using hn
    rw [List.lookup_cons, hne]
    exact ih fun k hk => h k (List.mem_cons_of_mem _ hk)

theorem length_insertEntry_of_isSome {key : String} (value : β) {l : List (String × β)}
    (ho : (l.map Prod.fst).Pairwise (· < ·)) (h : (l.lookup key).isSome = true) :
    (insertEntry key value l).length = l.length := by
  induction l with
  | nil => simp at h
  | cons e rest ih =>
    obtain ⟨name, old⟩ := e
    have hp := List.pairwise_cons.mp ho
    simp only [insertEntry]
    split
    next hlt =>
      have hnone : ((name, old) :: rest).lookup key = none := by
        apply lookup_eq_none_of_lt
        intro k hk
        rcases List.mem_cons.mp hk with rfl | hk
        · exact hlt
        · exact String.lt_trans hlt (hp.1 k hk)
      rw [hnone] at h
      cases h
    next =>
      split
      · simp
      next hne =>
        have hb : (key == name) = false := by simpa using hne
        rw [List.lookup_cons, hb] at h
        simp [ih hp.2 h]

theorem size_insert_of_contains (d : Dict β) {key : String} (value : β)
    (h : d.contains key = true) : (d.insert key value).size = d.size :=
  length_insertEntry_of_isSome value d.ordered h

@[simp] theorem find?_insert (d : Dict β) (key k : String) (value : β) :
    (d.insert key value).find? k = if k = key then some value else d.find? k :=
  lookup_insertEntry key value d.entries k

@[simp] theorem find?_empty (k : String) : (empty : Dict β).find? k = none := rfl

end Dict

end TagAtlas
