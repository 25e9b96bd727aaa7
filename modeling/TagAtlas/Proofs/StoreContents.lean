import Mathlib.Logic.Basic
import TagAtlas.Cache.Store

/-!
# What a bounded store keeps

Whatever is driven out, purged or forgotten, a store never keeps a value that was not stored under
its key. So a property of all stored values is a property of all answers.
-/

namespace TagAtlas.Store

variable {κ α : Type} [DecidableEq κ]

/-- A value is kept under a key, expired or not. -/
def Keeps (s : Store κ α) (key : κ) (value : α) : Prop :=
  ∃ e, (key, e) ∈ s.entries ∧ e.value = value

variable {s : Store κ α} {k key : κ} {v value : α} {now : Time}

theorem mem_of_entry? {e : Entry α} (h : s.entry? key = some e) : (key, e) ∈ s.entries := by
  obtain ⟨l₁, l₂, hl, _⟩ := List.lookup_eq_some_iff.mp h
  rw [hl]
  simp

omit [DecidableEq κ] in
theorem not_keeps_new {capacity : Nat} {lifetime : Option Nat} :
    ¬ (Store.new capacity lifetime : Store κ α).Keeps k v := by
  rintro ⟨e, he, _⟩
  cases he

omit [DecidableEq κ] in
theorem not_keeps_clear : ¬ s.clear.Keeps k v := by
  rintro ⟨e, he, _⟩
  cases he

omit [DecidableEq κ] in
theorem keeps_of_sublist {t : Store κ α} (hsub : t.entries.Sublist s.entries)
    (h : t.Keeps k v) : s.Keeps k v := by
  obtain ⟨e, he, hv⟩ := h
  exact ⟨e, hsub.subset he, hv⟩

theorem keeps_of_erase (h : (s.erase key).Keeps k v) : s.Keeps k v :=
  keeps_of_sublist List.filter_sublist h

theorem keeps_of_peek? (h : s.peek? key now = some v) : s.Keeps key v := by
  unfold peek? at h
  split at h
  next e he =>
    split at h
    · cases h
    · exact ⟨e, mem_of_entry? he, Option.some.inj h⟩
  next => cases h

theorem keeps_of_get?_fst (h : (s.get? key now).1 = some v) : s.Keeps key v := by
  unfold get? at h
  split at h
  next => cases h
  next e he =>
    split at h
    · cases h
    · exact ⟨e, mem_of_entry? he, Option.some.inj h⟩

/-- Looking up changes notes about uses, and at most takes out an expired value. -/
theorem keeps_of_get?_snd (h : (s.get? key now).2.Keeps k v) : s.Keeps k v := by
  unfold get? at h
  split at h
  next => exact h
  next e he =>
    split at h
    · exact keeps_of_erase h
    · obtain ⟨e', he', hv⟩ := h
      obtain ⟨p, hp, heq⟩ := List.mem_map.mp he'
      split at heq
      · cases heq
        exact ⟨p.2, hp, hv⟩
      · subst heq
        exact ⟨e', hp, hv⟩

theorem keeps_of_makeRoom (h : (s.makeRoom now).Keeps k v) : s.Keeps k v := by
  simp only [makeRoom] at h
  split at h
  · exact keeps_of_sublist List.filter_sublist h
  · split at h
    · exact keeps_of_sublist (s := s) List.filter_sublist h
    · exact h

theorem keeps_of_insertFor {lifetime : Option Nat}
    (h : (s.insertFor key value lifetime now).Keeps k v) : k = key ∧ v = value ∨ s.Keeps k v := by
  obtain ⟨e, he, hv⟩ := h
  rcases List.mem_append.mp he with he | he
  · have hk : (if (s.entry? key).isNone && s.capacity ≤ s.size then s.makeRoom now else s).Keeps
        k v := keeps_of_erase ⟨e, he, hv⟩
    split at hk
    · exact .inr (keeps_of_makeRoom hk)
    · exact .inr hk
  · cases List.mem_singleton.mp he
    exact .inl ⟨rfl, hv.symm⟩

theorem keeps_of_insert (h : (s.insert key value now).Keeps k v) :
    k = key ∧ v = value ∨ s.Keeps k v :=
  keeps_of_insertFor h

omit [DecidableEq κ] in
theorem keeps_of_removeWhere {test : κ → α → Bool} (h : (s.removeWhere test).2.Keeps k v) :
    s.Keeps k v ∧ test k v = false := by
  obtain ⟨e, he, rfl⟩ := h
  obtain ⟨hm, ht⟩ := List.mem_filter.mp he
  exact ⟨⟨e, hm, rfl⟩, by simpa using ht⟩

theorem lookup_insertFor (s : Store κ α) (key : κ) (value : α) (lifetime : Option Nat)
    (now : Time) :
    (s.insertFor key value lifetime now).entries.lookup key =
      some (Entry.new value lifetime now) := by
  have herased : ∀ l : List (κ × Entry α),
      (l.filter fun e => decide (e.1 ≠ key)).lookup key = none := by
    intro l
    rw [List.lookup_eq_none_iff]
    intro e he
    have hne : e.1 ≠ key := of_decide_eq_true (List.mem_filter.mp he).2
    exact bne_iff_ne.mpr hne.symm
  unfold insertFor
  dsimp only [erase]
  rw [List.lookup_append, herased]
  simp

theorem peek?_insert {now' : Time}
    (h : (Entry.new value s.lifetime now).isExpired now' = false) :
    (s.insert key value now).peek? key now' = some value := by
  unfold peek? insert entry?
  rw [lookup_insertFor]
  dsimp only
  rw [h]
  rfl

theorem keeps_of_remove (h : (s.remove key).2.Keeps k v) : s.Keeps k v := keeps_of_erase h

end TagAtlas.Store
