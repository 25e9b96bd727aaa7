import Mathlib
import TagAtlas.Proofs.FileCacheHistory

/-!
# What a cache of file summaries retains

A value that lives stays until room is made for another key, and then it goes only if all the others
were set after it. There are as many of those as the cache has room for, with the new one, so a
value is safe while fewer other keys have been set.
-/

namespace TagAtlas

open FileCall

namespace Store

section retention

variable {κ α : Type} [DecidableEq κ] {s : Store κ α} {now : Time} {key : κ} {value : α}
  {x : κ × Entry α} {keys : Finset κ}

/-- An entry is kept, and what was used after it has its key among some. -/
def KeptBefore (s : Store κ α) (x : κ × Entry α) (keys : Finset κ) : Prop :=
  x ∈ s.entries ∧ ∀ y ∈ s.entries, x.2.lastUsed < y.2.lastUsed → y.1 ∈ keys

/-- A live entry stays when room is made, unless none was used before it. -/
theorem mem_makeRoom_or_oldest (h : s.WellUsed now) (hx : x ∈ s.entries)
    (hlive : x.2.isExpired now = false) :
    x ∈ (s.makeRoom now).entries ∨ ∀ y ∈ s.entries, x.2.lastUsed ≤ y.2.lastUsed := by
  rcases makeRoom_cases h (List.ne_nil_of_mem hx) with ⟨-, heq⟩ | ⟨-, oldest, rest, hsorted, heq⟩
  · rw [heq]
    exact .inl (List.mem_filter.mpr ⟨hx, by rw [hlive]; rfl⟩)
  · by_cases hkey : x.1 = oldest.1
    · have hmem : oldest ∈ s.entries := mem_of_byUse_eq_cons hsorted
      obtain rfl : x = oldest := List.inj_on_of_nodup_map h.keys hx hmem hkey
      refine .inr fun y hy => ?_
      by_cases hne : y = x
      · rw [hne]
      · exact Int.le_of_lt (lt_of_byUse_eq_cons h.uses hsorted hy hne)
    · rw [heq]
      exact .inl (List.mem_filter.mpr ⟨hx, decide_eq_true hkey⟩)

/-- Entries that were all used after one, and a new key, are as many keys as there are entries. -/
theorem size_le_card (h : s.WellUsed now) (hkept : s.KeptBefore x keys)
    (holdest : ∀ y ∈ s.entries, x.2.lastUsed ≤ y.2.lastUsed) (hkey : key ≠ x.1)
    (hnew : key ∉ s.entries.map Prod.fst) : s.size ≤ (keys ∪ {key}).card := by
  have hx : x.1 ∈ (s.entries.map Prod.fst).toFinset :=
    List.mem_toFinset.mpr (List.mem_map_of_mem hkept.1)
  have hsub : (Insert.insert key (s.entries.map Prod.fst).toFinset).erase x.1 ⊆ keys ∪ {key} := by
    intro k hk
    obtain ⟨hne, hk⟩ := Finset.mem_erase.mp hk
    rcases Finset.mem_insert.mp hk with rfl | hk
    · exact Finset.mem_union_right _ (Finset.mem_singleton_self k)
    · obtain ⟨y, hy, rfl⟩ := List.mem_map.mp (List.mem_toFinset.mp hk)
      have huse : x.2.lastUsed ≠ y.2.lastUsed := fun huse =>
        hne (congrArg Prod.fst (List.inj_on_of_nodup_map h.uses hkept.1 hy huse)).symm
      exact Finset.mem_union_left _ (hkept.2 y hy (lt_of_le_of_ne (holdest y hy) huse))
  calc s.size = (s.entries.map Prod.fst).toFinset.card := by
        rw [List.toFinset_card_of_nodup h.keys, List.length_map, size]
    _ = ((Insert.insert key (s.entries.map Prod.fst).toFinset).erase x.1).card := by
        rw [Finset.card_erase_of_mem (Finset.mem_insert_of_mem hx),
          Finset.card_insert_of_notMem (mt List.mem_toFinset.mp hnew), Nat.add_sub_cancel]
    _ ≤ (keys ∪ {key}).card := Finset.card_le_card hsub

theorem entry?_eq_none_iff : s.entry? key = none ↔ key ∉ s.entries.map Prod.fst := by
  change s.entries.lookup key = none ↔ _
  simp only [List.lookup_eq_none_iff, bne_iff_ne, List.mem_map, not_exists, not_and]
  exact forall₂_congr fun p _ => ne_comm

theorem keptBefore_insert (h : s.WellUsed now) (key : κ) (value : α) :
    (s.insert key value now).KeptBefore (key, Entry.new value s.lifetime now) ∅ := by
  refine ⟨List.mem_append_right _ List.mem_cons_self, fun y hy hlt => ?_⟩
  rcases of_mem_insertFor h hy with ⟨-, hy⟩ | rfl
  · exact absurd (h.before y hy) (Int.lt_asymm hlt)
  · exact absurd hlt (Int.lt_irrefl now)

theorem KeptBefore.insert (h : s.KeptBefore x keys) (hused : s.WellUsed now)
    (hlive : x.2.isExpired now = false) (hkey : key ≠ x.1)
    (hcard : (keys ∪ {key}).card < s.capacity) :
    (s.insert key value now).KeptBefore x (keys ∪ {key}) := by
  have hroom : x ∈ (s.roomFor key now).entries := by
    rw [roomFor]
    split
    next hfull =>
      rw [Bool.and_eq_true, Option.isNone_iff_eq_none, decide_eq_true_eq] at hfull
      refine (mem_makeRoom_or_oldest hused h.1 hlive).resolve_right fun holdest => ?_
      have hsize := size_le_card hused h holdest hkey (entry?_eq_none_iff.mp hfull.1)
      omega
    next => exact h.1
  constructor
  · exact List.mem_append_left _ (List.mem_filter.mpr ⟨hroom, decide_eq_true hkey.symm⟩)
  · intro y hy hlt
    rcases of_mem_insertFor hused hy with ⟨-, hy⟩ | rfl
    · exact Finset.mem_union_left _ (h.2 y hy hlt)
    · exact Finset.mem_union_right _ (Finset.mem_singleton_self key)

end retention

variable {s : Store String (List UInt8)} {now t : Time} {capacity lifetime : Nat}
  {calls : List (FileCall × Time)} {key : String} {bytes : List UInt8}
  {x : String × Entry (List UInt8)} {keys : Finset String}

theorem isExpired_new_eq_false_iff : (Entry.new bytes (some lifetime) t).isExpired now = false ↔
    t.elapsed now < lifetime := by
  rw [Entry.isExpired, Entry.new, decide_eq_false_iff_not, Nat.not_le]

/-! ### Calls that spare a key -/

theorem KeptBefore.answer {call : FileCall} (h : s.KeptBefore x keys) (hused : s.WellUsed now)
    (hlive : x.2.isExpired now = false) (hspares : call.Spares x.1)
    (hcard : (keys ∪ call.setKey?.toFinset.erase x.1).card < s.capacity) :
    (s.answer now call.request).2.KeptBefore x (keys ∪ call.setKey?.toFinset.erase x.1) := by
  cases call with
  | get key => exact (Finset.union_empty keys).symm ▸ h
  | set key bytes =>
    have hsingle : (FileCall.set key bytes).setKey?.toFinset.erase x.1 = {key} :=
      Finset.erase_eq_of_notMem fun hmem => hspares (Finset.mem_singleton.mp hmem).symm
    rw [hsingle] at hcard ⊢
    exact h.insert hused hlive hspares hcard
  | delete key =>
    have hkept : (s.erase key).KeptBefore x keys :=
      ⟨List.mem_filter.mpr ⟨h.1, decide_eq_true (Ne.symm hspares)⟩,
        fun y hy => h.2 y (List.filter_sublist.subset hy)⟩
    exact (Finset.union_empty keys).symm ▸ hkept
  | clear => exact hspares.elim

/-- A value is kept from when it is set, while it lives and too few other keys are set. By induction
on the calls since then, the last one first. -/
theorem keptBefore_after {before since : List (FileCall × Time)}
    (h : Increasing (before ++ (.set key bytes, t) :: since) now)
    (hspared : ∀ call ∈ since, call.1.Spares key)
    (hcard : (otherKeys key since).card < max capacity 1) (hlive : t.elapsed now < lifetime) :
    ((Store.new capacity (some lifetime)).after
      (requests (before ++ (.set key bytes, t) :: since))).KeptBefore
        (key, Entry.new bytes (some lifetime) t) (otherKeys key since) := by
  induction since using List.reverseRecOn generalizing now with
  | nil =>
    have hserves := Serves.after capacity lifetime (increasing_concat h).1
    have hkept := keptBefore_insert hserves.used key bytes
    rw [hserves.lifetime_eq] at hkept
    rw [after_requests_concat]
    exact hkept
  | append_singleton since call ih =>
    rw [← List.cons_append, ← List.append_assoc] at h ⊢
    obtain ⟨hcalls, hlater⟩ := increasing_concat h
    obtain ⟨hspared, hcall⟩ := List.forall_mem_append.mp hspared
    have hserves := Serves.after capacity lifetime hcalls
    have hlived : t.elapsed call.2 < lifetime :=
      Nat.lt_of_le_of_lt (Time.elapsed_mono (Int.le_of_lt hlater) t) hlive
    rw [otherKeys_concat] at hcard ⊢
    have hkept := ih hcalls hspared
      (Nat.lt_of_le_of_lt (Finset.card_le_card Finset.subset_union_left) hcard) hlived
    rw [after_requests_concat]
    exact hkept.answer hserves.used (isExpired_new_eq_false_iff.mpr hlived)
      (hcall call List.mem_cons_self) (hserves.capacity_eq ▸ hcard)

/-! ### Look-ups -/

theorem peek?_eq_some_iff (h : s.WellUsed now) : s.peek? key now = some bytes ↔
    ∃ e, (key, e) ∈ s.entries ∧ e.isExpired now = false ∧ e.value = bytes := by
  have hentry : ∀ e, s.entry? key = some e ↔ (key, e) ∈ s.entries :=
    fun e => Dict.lookup_eq_some_iff_mem h.keys
  simp only [← hentry]
  rw [peek?]
  cases s.entry? key with
  | none => simp
  | some e => cases hexpired : e.isExpired now <;> simp [hexpired]

theorem Serves.exists_stands (h : Serves capacity lifetime calls s now)
    (hpeek : s.peek? key now = some bytes) :
    ∃ t, Stands calls key bytes t ∧ t.elapsed now < lifetime := by
  obtain ⟨e, hmem, hlive, rfl⟩ := (peek?_eq_some_iff h.used).mp hpeek
  obtain ⟨bytes, t, hstands, heq⟩ := h.stands _ hmem
  dsimp only at heq
  rw [heq] at hlive ⊢
  exact ⟨t, hstands, isExpired_new_eq_false_iff.mp hlive⟩

theorem Serves.lastSet?_eq (h : Serves capacity lifetime calls s now) (hx : x ∈ s.entries) :
    lastSet? x.1 calls = some x.2.lastUsed := by
  obtain ⟨bytes, t, hstands, heq⟩ := h.stands x hx
  rw [heq]
  exact hstands.lastSet?_eq

/-- A new key takes the place of the one that was set last before all others. -/
theorem Serves.exists_evicted (h : Serves capacity lifetime calls s now)
    (hnew : key ∉ s.entries.map Prod.fst) (hfull : s.capacity ≤ s.size)
    (hlive : ∀ x ∈ s.entries, x.2.isExpired now = false) (bytes : List UInt8) :
    ∃ x ∈ s.entries, (∀ y ∈ s.entries, y.1 ≠ x.1 → x.2.lastUsed < y.2.lastUsed) ∧
      (s.insert key bytes now).entries = s.entries.filter (fun y => y.1 ≠ x.1) ++
        [(key, Entry.new bytes (some lifetime) now)] := by
  have hroom : s.roomFor key now = s.makeRoom now := by
    rw [roomFor, entry?_eq_none_iff.mpr hnew, if_pos (by simpa using hfull)]
  rcases makeRoom_cases h.used (entries_ne_nil_of_full h.used hfull) with
    ⟨⟨e, he, hexpired⟩, -⟩ | ⟨-, x, rest, hsorted, heq⟩
  · rw [hlive e he] at hexpired
    cases hexpired
  · refine ⟨x, mem_of_byUse_eq_cons hsorted, fun y hy hne => ?_, ?_⟩
    · exact lt_of_byUse_eq_cons h.used.uses hsorted hy fun heq => hne (congrArg Prod.fst heq)
    · have hothers : (s.erase x.1).entries.filter (fun y => decide (y.1 ≠ key)) =
          (s.erase x.1).entries := by
        refine List.filter_eq_self.mpr fun y hy => decide_eq_true fun heq => hnew ?_
        exact heq ▸ List.mem_map_of_mem (List.filter_sublist.subset hy)
      rw [insert, insertFor_eq, hroom, heq, withLast, h.lifetime_eq]
      exact congrArg (· ++ _) hothers

end Store

namespace FileCache

/-- What a cache retains after calls, and what it lets go, when it is asked at a time. -/
structure Retains (capacity lifetime : Nat) (calls : List (FileCall × Time)) (now : Time)
    (c : FileCache) : Prop where
  retains : ∀ before key bytes t since, calls = before ++ (.set key bytes, t) :: since →
    (∀ call ∈ since, call.1.Spares key) → (otherKeys key since).card < max capacity 1 →
      t.elapsed now < lifetime → (c.get? key now).1 = some bytes
  /-- Bytes are found only where they were set last, and while they live. -/
  stands : ∀ key bytes, (c.get? key now).1 = some bytes →
    ∃ t, Stands calls key bytes t ∧ t.elapsed now < lifetime
  expires : ∀ key t, lastSet? key calls = some t → lifetime ≤ t.elapsed now →
    (c.get? key now).1 = .none
  bounded : c.size ≤ max capacity 1
  evicts : ∀ key bytes, key ∉ c.entries.map Prod.fst → max capacity 1 ≤ c.size →
    (∀ x ∈ c.entries, x.2.isExpired now = false) → ∃ x ∈ c.entries,
      (∃ t, lastSet? x.1 calls = some t ∧ ∀ y ∈ c.entries, y.1 ≠ x.1 →
        ∃ t', lastSet? y.1 calls = some t' ∧ t < t') ∧
      (c.set key bytes now).entries = c.entries.filter (fun y => y.1 ≠ x.1) ++
        [(key, Entry.new bytes (some lifetime) now)]
  /-- Look-ups have no part in what is kept. -/
  lookups : ((FileCache.bounded capacity lifetime).after
    (calls.filter fun call => !call.1.isGet)).entries = c.entries
  counted : c.stats.hits + c.stats.misses = calls.countP fun call => call.1.isGet
  hits : c.stats.hits =
    ((FileCache.bounded capacity lifetime).answers calls).countP FileAnswer.isHit

variable {calls : List (FileCall × Time)} {now : Time}

theorem get?_memory_fst (store : Store String (List UInt8)) (hits misses : Nat) (key : String)
    (now : Time) : ((memory store hits misses).get? key now).1 = store.peek? key now := by
  rw [get?]
  cases store.peek? key now <;> rfl

theorem retains_of_increasing (capacity lifetime : Nat) (h : Increasing calls now) :
    Retains capacity lifetime calls now ((bounded capacity lifetime).after calls) := by
  obtain ⟨hhits, hcounted⟩ := stats_after (bounded capacity lifetime) calls
  obtain ⟨hits, misses, hafter⟩ := after_memory (.new capacity (some lifetime)) 0 0 calls
  obtain ⟨hits', misses', hunasked⟩ := after_memory (.new capacity (some lifetime)) 0 0
    (calls.filter fun call => !call.1.isGet)
  rw [Store.after_requests_filter] at hunasked
  have hserves := Store.Serves.after capacity lifetime h
  have hget : ∀ key, (((bounded capacity lifetime).after calls).get? key now).1 =
      ((Store.new capacity (some lifetime)).after (requests calls)).peek? key now := by
    intro key
    rw [bounded, hafter, get?_memory_fst]
  constructor
  case retains =>
    rintro before key bytes t since rfl hspared hcard hlive
    have hkept := Store.keptBefore_after h hspared hcard hlive
    rw [hget, Store.peek?_eq_some_iff hserves.used]
    exact ⟨_, hkept.1, Store.isExpired_new_eq_false_iff.mpr hlive, rfl⟩
  case stands =>
    intro key bytes hfound
    exact hserves.exists_stands ((hget key).symm.trans hfound)
  case expires =>
    intro key t hset hover
    rw [hget, Option.eq_none_iff_forall_not_mem]
    intro bytes hfound
    obtain ⟨t', hstands, hlive⟩ := hserves.exists_stands hfound
    obtain rfl : t = t' := Option.some.inj (hset.symm.trans hstands.lastSet?_eq)
    exact absurd hlive (Nat.not_lt.mpr hover)
  case bounded =>
    rw [bounded, hafter, ← hserves.capacity_eq]
    exact hserves.used.room
  case evicts =>
    rw [bounded, hafter]
    intro key bytes hnew hfull hlive
    obtain ⟨x, hx, holdest, heq⟩ :=
      hserves.exists_evicted hnew (hserves.capacity_eq ▸ hfull) hlive bytes
    refine ⟨x, hx, ⟨_, hserves.lastSet?_eq hx, fun y hy hne => ?_⟩, heq⟩
    exact ⟨_, hserves.lastSet?_eq hy, holdest y hy hne⟩
  case lookups =>
    rw [bounded, hafter, hunasked]
    rfl
  case counted =>
    rw [hcounted]
    exact Nat.zero_add _
  case hits =>
    rw [hhits]
    exact Nat.zero_add _

/-- A value that was looked up goes first, for it was set first; one that was set again stays. -/
theorem retains_of_set_again :
    let calls : List (FileCall × Time) := [(.set "a" [1], 1), (.set "b" [2], 2), (.get "a", 3),
      (.set "c" [3], 4), (.get "a", 5), (.set "b" [4], 6), (.delete "c", 7), (.set "d" [5], 8),
      (.get "b", 9)]
    let c := (bounded 2 10).after calls
    Increasing calls 15 ∧ c.entries.map Prod.fst = ["b", "d"] ∧ c.stats = ⟨2, 1, 1, 2, 2⟩ ∧
      (c.get? "b" 15).1 = some [4] ∧ Retains 2 10 calls 15 c := by
  intro calls c
  have hincreasing : Increasing calls 15 := by
    unfold Increasing
    decide
  have hretains : Retains 2 10 calls 15 c := retains_of_increasing 2 10 hincreasing
  have hspared : ∀ call ∈ [(FileCall.delete "c", (7 : Time)), (.set "d" [5], 8), (.get "b", 9)],
      call.1.Spares "b" := by
    simp [FileCall.Spares]
  refine ⟨hincreasing, by decide, by decide, ?_, hretains⟩
  exact hretains.retains (calls.take 5) "b" [4] 6 _ rfl hspared (by decide) (by decide)

end FileCache

end TagAtlas
