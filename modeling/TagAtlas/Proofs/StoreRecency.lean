import Mathlib
import TagAtlas.Proofs.DictContents
import TagAtlas.Proofs.StoreContents

/-!
# Bounded stores as lists by recency

A store knows when each of its values was used last, and keeps them in no order that matters. By
their last uses they form a list that begins with the value that went unused longest. Each operation
of the store does to this list what its text says about order: a use moves a value to the end, and a
full list loses its expired values, or else its first one.
-/

namespace TagAtlas

theorem Time.elapsed_mono {now later : Time} (h : now ≤ later) (start : Time) :
    start.elapsed now ≤ start.elapsed later :=
  Int.toNat_le_toNat (Int.sub_le_sub_right h start)

theorem Entry.isExpired_mono {α : Type} {e : Entry α} {now later : Time} (h : now ≤ later)
    (hexpired : e.isExpired now = true) : e.isExpired later = true := by
  cases hlifetime : e.lifetime with
  | none => simp [isExpired, hlifetime] at hexpired
  | some span =>
    simp only [isExpired, hlifetime, decide_eq_true_eq] at hexpired ⊢
    exact Nat.le_trans hexpired (Time.elapsed_mono h e.createdAt)

structure Held (κ α : Type) where
  key : κ
  value : α
  createdAt : Time
  lifetime : Option Nat

namespace Held

variable {κ α : Type}

def isExpired (i : Held κ α) (now : Time) : Bool :=
  match i.lifetime with
  | some span => span ≤ now - i.createdAt
  | none => false

def ofEntry (e : κ × Entry α) : Held κ α := ⟨e.1, e.2.value, e.2.createdAt, e.2.lifetime⟩

end Held

/-- Values by their last use, the one that went unused longest first. -/
structure RecencyList (κ α : Type) where
  items : List (Held κ α)
  bound : Nat
  lifetime : Option Nat
  evictions : Nat

namespace RecencyList

variable {κ α : Type} [DecidableEq κ]

def new (capacity : Nat) (lifetime : Option Nat) : RecencyList κ α :=
  ⟨[], max capacity 1, lifetime, 0⟩

def find? (r : RecencyList κ α) (key : κ) : Option (Held κ α) := r.items.find? (·.key = key)

def without (r : RecencyList κ α) (key : κ) : RecencyList κ α :=
  { r with items := r.items.filter (·.key ≠ key) }

/-- Puts a value to the recent end, in place of the one of its key. -/
def use (r : RecencyList κ α) (i : Held κ α) : RecencyList κ α :=
  { r with items := (r.without i.key).items ++ [i] }

def peek? (r : RecencyList κ α) (key : κ) (now : Time) : Option α :=
  match r.find? key with
  | some i => if i.isExpired now then none else some i.value
  | none => none

/-- A live value is used, an expired one is dropped. -/
def get? (r : RecencyList κ α) (key : κ) (now : Time) : Option α × RecencyList κ α :=
  match r.find? key with
  | some i => if i.isExpired now then (none, r.without key) else (some i.value, r.use i)
  | none => (none, r)

/-- Drops exactly the expired values, and counts them as evictions. -/
def purge (r : RecencyList κ α) (now : Time) : Nat × RecencyList κ α :=
  let expired := r.items.countP (·.isExpired now)
  (expired, { r with
    items := r.items.filter fun i => !i.isExpired now
    evictions := r.evictions + expired })

/-- Drops the expired values if there are any, or else exactly the first value. -/
def makeRoom (r : RecencyList κ α) (now : Time) : RecencyList κ α :=
  if r.items.any (·.isExpired now) then (r.purge now).2
  else { r with items := r.items.tail, evictions := r.evictions + 1 }

def insertFor (r : RecencyList κ α) (key : κ) (value : α) (lifetime : Option Nat) (now : Time) :
    RecencyList κ α :=
  let r := if (r.find? key).isNone && r.bound ≤ r.items.length then r.makeRoom now else r
  r.use ⟨key, value, now, lifetime⟩

def removeWhere (r : RecencyList κ α) (test : κ → α → Bool) : Nat × RecencyList κ α :=
  (r.items.countP fun i => test i.key i.value,
    { r with items := r.items.filter fun i => !test i.key i.value })

end RecencyList

namespace Store

variable {κ α : Type}

/-! ### Entries by their last use -/

/-- Entries in the order of their last uses. -/
def byUse (l : List (κ × Entry α)) : List (κ × Entry α) :=
  l.mergeSort fun a b => a.2.lastUsed ≤ b.2.lastUsed

def recency (s : Store κ α) : RecencyList κ α :=
  ⟨(byUse s.entries).map Held.ofEntry, s.capacity, s.lifetime, s.evictions⟩

/-- Keys and last uses tell entries apart, all lies before a time, and there is room for all. -/
structure WellUsed (s : Store κ α) (now : Time) : Prop where
  keys : (s.entries.map Prod.fst).Nodup
  uses : (s.entries.map fun e => e.2.lastUsed).Nodup
  created : ∀ e ∈ s.entries, e.2.createdAt ≤ e.2.lastUsed
  before : ∀ e ∈ s.entries, e.2.lastUsed < now
  positive : 0 < s.capacity
  room : s.entries.length ≤ s.capacity

section order

variable {l m : List (κ × Entry α)} {x : κ × Entry α}

theorem byUse_nil : byUse ([] : List (κ × Entry α)) = [] := List.mergeSort_nil

theorem byUse_perm (l : List (κ × Entry α)) : (byUse l).Perm l := List.mergeSort_perm _ _

theorem byUse_pairwise (h : (l.map fun e => e.2.lastUsed).Nodup) :
    (byUse l).Pairwise fun a b => a.2.lastUsed < b.2.lastUsed :=
  pairwise_lt_mergeSort (fun _ _ => decide_eq_true_iff) h

/-- Last uses that fall apart leave only one order. -/
theorem byUse_eq (hperm : m.Perm l)
    (hm : m.Pairwise fun a b => a.2.lastUsed < b.2.lastUsed) : byUse l = m := by
  have huses : (l.map fun e => e.2.lastUsed).Nodup :=
    (hperm.map _).nodup_iff.mp (List.pairwise_map.mpr (hm.imp fun h => Int.ne_of_lt h))
  refine List.Perm.eq_of_pairwise ?_ (byUse_pairwise huses) hm ((byUse_perm l).trans hperm.symm)
  intro a b _ _ hab hba
  exact absurd hba (Int.lt_asymm hab)

theorem byUse_congr (h : (l.map fun e => e.2.lastUsed).Nodup) (hperm : l.Perm m) :
    byUse m = byUse l :=
  byUse_eq ((byUse_perm l).trans hperm) (byUse_pairwise h)

theorem byUse_filter (h : (l.map fun e => e.2.lastUsed).Nodup) (p : κ × Entry α → Bool) :
    byUse (l.filter p) = (byUse l).filter p :=
  byUse_eq ((byUse_perm l).filter p) ((byUse_pairwise h).filter p)

theorem byUse_concat (h : (l.map fun e => e.2.lastUsed).Nodup)
    (hx : ∀ e ∈ l, e.2.lastUsed < x.2.lastUsed) : byUse (l ++ [x]) = byUse l ++ [x] := by
  refine byUse_eq ((byUse_perm l).append_right [x]) ?_
  refine List.pairwise_append.mpr ⟨byUse_pairwise h, List.pairwise_singleton _ _, ?_⟩
  intro a ha b hb
  rw [List.mem_singleton.mp hb]
  exact hx a ((byUse_perm l).mem_iff.mp ha)

theorem mem_of_byUse_eq_cons {rest : List (κ × Entry α)} (h : byUse l = x :: rest) : x ∈ l :=
  (byUse_perm l).mem_iff.mp (h ▸ List.mem_cons_self)

theorem lt_of_byUse_eq_cons (huses : (l.map fun e => e.2.lastUsed).Nodup)
    {rest : List (κ × Entry α)} (h : byUse l = x :: rest) {y : κ × Entry α} (hy : y ∈ l)
    (hne : y ≠ x) : x.2.lastUsed < y.2.lastUsed := by
  have hpairwise := byUse_pairwise huses
  have hmem : y ∈ byUse l := (byUse_perm l).mem_iff.mpr hy
  rw [h] at hpairwise hmem
  exact (List.pairwise_cons.mp hpairwise).1 y ((List.mem_cons.mp hmem).resolve_left hne)

theorem length_sub_length_filter (l : List (κ × Entry α)) (p : κ × Entry α → Bool) :
    l.length - (l.filter fun e => !p e).length = l.countP p := by
  rw [List.length_eq_length_filter_add p, List.countP_eq_length_filter, Nat.add_sub_cancel]

theorem exists_oldest {l : List (κ × Entry α)} (h : l ≠ []) : ∃ x ∈ l,
    oldest? l = some (x.1, x.2.lastUsed) ∧ ∀ y ∈ l, x.2.lastUsed ≤ y.2.lastUsed := by
  induction l with
  | nil => exact absurd rfl h
  | cons y l ih =>
    unfold oldest?
    cases l with
    | nil => exact ⟨y, List.mem_cons_self, rfl, by simp⟩
    | cons z l =>
      obtain ⟨x, hx, holdest, hleast⟩ := ih (List.cons_ne_nil z l)
      rw [holdest]
      dsimp only
      split
      next hlt =>
        exact ⟨x, List.mem_cons_of_mem _ hx, rfl,
          List.forall_mem_cons.mpr ⟨Int.le_of_lt hlt, hleast⟩⟩
      next hlt =>
        have hle := Int.not_lt.mp hlt
        exact ⟨y, List.mem_cons_self, rfl, List.forall_mem_cons.mpr
          ⟨Int.le_refl _, fun w hw => Int.le_trans hle (hleast w hw)⟩⟩

end order

variable {s t : Store κ α} {now later : Time} {key : κ} {e : Entry α} {value : α}
  {lifetime : Option Nat}

namespace WellUsed

theorem createdAt_lt (h : WellUsed s now) {x : κ × Entry α} (hx : x ∈ s.entries) :
    x.2.createdAt < now :=
  Int.lt_of_le_of_lt (h.created x hx) (h.before x hx)

theorem mono (h : WellUsed s now) (hlater : now ≤ later) : WellUsed s later :=
  { h with before := fun e he => Int.lt_of_lt_of_le (h.before e he) hlater }

theorem of_sublist (h : WellUsed s now) (hsub : t.entries.Sublist s.entries)
    (hcapacity : t.capacity = s.capacity) : WellUsed t now where
  keys := h.keys.sublist (hsub.map _)
  uses := h.uses.sublist (hsub.map _)
  created e he := h.created e (hsub.subset he)
  before e he := h.before e (hsub.subset he)
  positive := hcapacity ▸ h.positive
  room := hcapacity ▸ Nat.le_trans hsub.length_le h.room

theorem of_perm (h : WellUsed s now) (hperm : t.entries.Perm s.entries)
    (hcapacity : t.capacity = s.capacity) : WellUsed t now where
  keys := (hperm.map _).nodup_iff.mpr h.keys
  uses := (hperm.map _).nodup_iff.mpr h.uses
  created e he := h.created e (hperm.mem_iff.mp he)
  before e he := h.before e (hperm.mem_iff.mp he)
  positive := hcapacity ▸ h.positive
  room := hcapacity ▸ hperm.length_eq ▸ h.room

end WellUsed

/-- What went unused longest stands first. -/
theorem exists_byUse_eq_cons (h : WellUsed s now) (hne : s.entries ≠ []) : ∃ x rest,
    byUse s.entries = x :: rest ∧ oldest? s.entries = some (x.1, x.2.lastUsed) := by
  obtain ⟨x, hx, holdest, hleast⟩ := exists_oldest hne
  cases hsorted : byUse s.entries with
  | nil =>
    have hperm := hsorted ▸ byUse_perm s.entries
    exact absurd hperm.nil_eq.symm hne
  | cons y rest =>
    by_cases hxy : x = y
    · exact ⟨x, rest, by rw [hxy], holdest⟩
    · have hle := hleast y (mem_of_byUse_eq_cons hsorted)
      exact absurd hle (Int.not_le.mpr (lt_of_byUse_eq_cons h.uses hsorted hx hxy))

theorem entries_ne_nil_of_full (h : WellUsed s now) (hfull : s.capacity ≤ s.size) :
    s.entries ≠ [] :=
  List.ne_nil_of_length_pos (Nat.lt_of_lt_of_le h.positive hfull)

/-! ### Reading the list -/

theorem length_recency (s : Store κ α) : s.recency.items.length = s.size := by
  simp only [recency, List.length_map, (byUse_perm _).length_eq, size]

theorem mem_recency_iff {i : Held κ α} :
    i ∈ s.recency.items ↔ ∃ e ∈ s.entries, Held.ofEntry e = i := by
  simp only [recency, List.mem_map, (byUse_perm _).mem_iff]

theorem keys_recency_nodup (h : WellUsed s now) : (s.recency.items.map Held.key).Nodup := by
  simp only [recency, List.map_map]
  exact ((byUse_perm s.entries).map Prod.fst).nodup_iff.mpr h.keys

theorem filter_recency (h : WellUsed s now) (p : Held κ α → Bool) :
    s.recency.items.filter p =
      (byUse (s.entries.filter fun e => p (Held.ofEntry e))).map Held.ofEntry := by
  rw [byUse_filter h.uses]
  exact List.filter_map

theorem countP_recency (p : Held κ α → Bool) :
    s.recency.items.countP p = s.entries.countP fun e => p (Held.ofEntry e) := by
  simp only [recency, List.countP_map, (byUse_perm s.entries).countP_eq]
  rfl

theorem isExpired_ofEntry (h : WellUsed s now) {x : κ × Entry α} (hx : x ∈ s.entries) :
    (Held.ofEntry x).isExpired now = x.2.isExpired now := by
  have hcreated := h.createdAt_lt hx
  unfold Held.isExpired Entry.isExpired Held.ofEntry Time.elapsed
  cases x.2.lifetime with
  | none => rfl
  | some span =>
    rw [decide_eq_decide]
    exact (Int.le_toNat (Int.sub_nonneg_of_le (Int.le_of_lt hcreated))).symm

theorem recency_congr {l m : List (κ × Entry α)} (h : (l.map fun e => e.2.lastUsed).Nodup)
    (hperm : l.Perm m) : { s with entries := m }.recency = { s with entries := l }.recency := by
  unfold recency
  rw [byUse_congr h hperm]

theorem purge_fst (s : Store κ α) (now : Time) :
    (s.purge now).1 = s.entries.countP fun e => e.2.isExpired now :=
  length_sub_length_filter _ _

theorem recency_purge (h : WellUsed s now) :
    s.recency.purge now = ((s.purge now).1, (s.purge now).2.recency) := by
  have hcount : s.recency.items.countP (·.isExpired now) =
      s.entries.countP fun e => e.2.isExpired now := by
    rw [countP_recency]
    exact List.countP_congr fun e he => by rw [isExpired_ofEntry h he]
  have hfilter : s.recency.items.filter (fun i => !i.isExpired now) =
      (byUse (s.entries.filter fun e => !e.2.isExpired now)).map Held.ofEntry := by
    rw [filter_recency h]
    exact congrArg (fun l => (byUse l).map Held.ofEntry)
      (List.filter_congr fun e he => by rw [isExpired_ofEntry h he])
  unfold RecencyList.purge purge
  dsimp only
  rw [hfilter, hcount, length_sub_length_filter]
  rfl

theorem recency_removeWhere (h : WellUsed s now) (test : κ → α → Bool) :
    s.recency.removeWhere test = ((s.removeWhere test).1, (s.removeWhere test).2.recency) := by
  unfold RecencyList.removeWhere removeWhere
  rw [countP_recency, filter_recency h]
  dsimp only
  rw [length_sub_length_filter]
  rfl

/-! ### Keys -/

variable [DecidableEq κ]

theorem filter_other_keys {l : List (κ × Entry α)} {x : κ × Entry α}
    (h : ((x :: l).map Prod.fst).Nodup) : (x :: l).filter (fun e => decide (e.1 ≠ x.1)) = l := by
  obtain ⟨hx, -⟩ := List.nodup_cons.mp h
  rw [List.filter_cons_of_neg (by simp)]
  refine List.filter_eq_self.mpr fun e he => decide_eq_true fun hkey => ?_
  exact hx (hkey ▸ List.mem_map_of_mem he)

/-- The entry of a key can stand first, before those of the other keys. -/
theorem perm_cons_filter {l : List (κ × Entry α)} {x : κ × Entry α}
    (h : (l.map Prod.fst).Nodup) (hx : x ∈ l) :
    l.Perm (x :: l.filter fun e => e.1 ≠ x.1) := by
  induction l with
  | nil => cases hx
  | cons y l ih =>
    obtain ⟨hy, hl⟩ := List.nodup_cons.mp h
    rcases List.mem_cons.mp hx with rfl | hx
    · rw [filter_other_keys h]
    · have hne : decide (y.1 ≠ x.1) = true :=
        decide_eq_true fun heq => hy (heq ▸ List.mem_map_of_mem hx)
      rw [List.filter_cons, if_pos hne]
      exact ((ih hl hx).cons y).trans (.swap x y _)

theorem find?_eq_of_mem {l : List (Held κ α)} (hkeys : (l.map Held.key).Nodup) {i : Held κ α}
    (hi : i ∈ l) : l.find? (·.key = i.key) = some i := by
  induction l with
  | nil => cases hi
  | cons j l ih =>
    obtain ⟨hj, hl⟩ := List.nodup_cons.mp hkeys
    rcases List.mem_cons.mp hi with rfl | hi
    · exact List.find?_cons_of_pos (decide_eq_true rfl)
    · have hne : j.key ≠ i.key := fun heq => hj (heq ▸ List.mem_map_of_mem hi)
      rw [List.find?_cons_of_neg (by simpa using hne)]
      exact ih hl hi

theorem find?_recency (h : WellUsed s now) (key : κ) :
    s.recency.find? key = (s.entry? key).map fun e => Held.ofEntry (key, e) := by
  cases hentry : s.entry? key with
  | some e =>
    have hmem := mem_of_entry? hentry
    exact find?_eq_of_mem (keys_recency_nodup h) (mem_recency_iff.mpr ⟨_, hmem, rfl⟩)
  | none =>
    refine List.find?_eq_none.mpr fun i hi hkey => ?_
    obtain ⟨x, hx, rfl⟩ := mem_recency_iff.mp hi
    have hne : key ≠ x.1 := bne_iff_ne.mp (List.lookup_eq_none_iff.mp hentry x hx)
    exact hne (of_decide_eq_true hkey).symm

theorem recency_erase (h : WellUsed s now) (key : κ) :
    (s.erase key).recency = s.recency.without key := by
  unfold RecencyList.without
  rw [filter_recency h]
  rfl

theorem recency_peek? (h : WellUsed s now) (key : κ) :
    s.recency.peek? key now = s.peek? key now := by
  unfold RecencyList.peek? peek?
  rw [find?_recency h]
  cases hentry : s.entry? key with
  | none => rfl
  | some e =>
    have hmem := mem_of_entry? hentry
    simp only [Option.map_some, isExpired_ofEntry h hmem]
    rfl

theorem length_erase_lt (h : WellUsed s now) (hentry : s.entry? key = some e) :
    (s.erase key).entries.length < s.capacity := by
  have hmem := mem_of_entry? hentry
  have hlength := (perm_cons_filter h.keys hmem).length_eq
  have hroom := h.room
  rw [List.length_cons] at hlength
  unfold erase
  dsimp only at hlength ⊢
  omega

def withLast (s : Store κ α) (key : κ) (e : Entry α) : Store κ α :=
  { s with entries := (s.erase key).entries ++ [(key, e)] }

theorem WellUsed.withLast (h : WellUsed s now) (he : e.lastUsed = now) (hcreated : e.createdAt ≤ now)
    (hroom : (s.erase key).entries.length < s.capacity) (hlater : now < later) :
    WellUsed (s.withLast key e) later := by
  have herase : WellUsed (s.erase key) now := h.of_sublist List.filter_sublist rfl
  have hkey : key ∉ (s.erase key).entries.map Prod.fst := by
    intro hmem
    obtain ⟨x, hx, hxkey⟩ := List.mem_map.mp hmem
    exact of_decide_eq_true (List.mem_filter.mp hx).2 hxkey
  have huse : now ∉ (s.erase key).entries.map fun e => e.2.lastUsed := by
    intro hmem
    obtain ⟨x, hx, hxuse⟩ := List.mem_map.mp hmem
    exact Int.ne_of_lt (herase.before x hx) hxuse
  constructor
  · simp only [Store.withLast, List.map_append, List.map_cons, List.map_nil]
    exact List.nodup_append_comm.mp (List.nodup_cons.mpr ⟨hkey, herase.keys⟩)
  · simp only [Store.withLast, List.map_append, List.map_cons, List.map_nil, he]
    exact List.nodup_append_comm.mp (List.nodup_cons.mpr ⟨huse, herase.uses⟩)
  · intro x hx
    rcases List.mem_append.mp hx with hx | hx
    · exact herase.created x hx
    · rw [List.mem_singleton.mp hx, he]
      exact hcreated
  · intro x hx
    rcases List.mem_append.mp hx with hx | hx
    · exact Int.lt_trans (herase.before x hx) hlater
    · rw [List.mem_singleton.mp hx, he]
      exact hlater
  · exact h.positive
  · simp only [Store.withLast, List.length_append, List.length_singleton]
    exact hroom

theorem recency_withLast (h : WellUsed s now) (he : e.lastUsed = now) :
    (s.withLast key e).recency = s.recency.use (Held.ofEntry (key, e)) := by
  have herase : WellUsed (s.erase key) now := h.of_sublist List.filter_sublist rfl
  unfold RecencyList.use
  rw [show (Held.ofEntry (key, e)).key = key from rfl, ← recency_erase h]
  unfold recency withLast
  rw [byUse_concat herase.uses fun x hx => he ▸ herase.before x hx, List.map_append]
  rfl

/-- A use moves an entry behind the others. -/
theorem map_touch_perm (h : WellUsed s now) (hentry : s.entry? key = some e) :
    (s.entries.map fun p => if p.1 = key then (p.1, p.2.touch now) else p).Perm
      (s.withLast key (e.touch now)).entries := by
  have hmem := mem_of_entry? hentry
  have hsplit := perm_cons_filter h.keys hmem
  have hothers : ((s.erase key).entries.map fun p =>
      if p.1 = key then (p.1, p.2.touch now) else p) = (s.erase key).entries := by
    conv => rhs; rw [← List.map_id (s.erase key).entries]
    refine List.map_congr_left fun p hp => ?_
    rw [if_neg (of_decide_eq_true (List.mem_filter.mp hp).2)]
    rfl
  refine (hsplit.map _).trans ?_
  rw [List.map_cons, if_pos rfl]
  change (_ :: (s.erase key).entries.map _).Perm _
  rw [hothers]
  exact (List.perm_append_singleton _ _).symm

theorem recency_get? (h : WellUsed s now) (key : κ) :
    s.recency.get? key now = ((s.get? key now).1, (s.get? key now).2.recency) := by
  unfold RecencyList.get? get?
  rw [find?_recency h]
  cases hentry : s.entry? key with
  | none => rfl
  | some e =>
    have hmem := mem_of_entry? hentry
    simp only [Option.map_some, isExpired_ofEntry h hmem]
    split
    · rw [recency_erase h]
    · have hlive := h.withLast (e := e.touch now) rfl (Int.le_of_lt (h.createdAt_lt hmem))
        (length_erase_lt h hentry) (Int.lt_succ now)
      rw [recency_congr hlive.uses (map_touch_perm h hentry).symm]
      have hview : (s.withLast key (e.touch now)).recency =
          s.recency.use (Held.ofEntry (key, e)) := recency_withLast h rfl
      exact congrArg _ hview.symm

/-- What is not there, or has expired, is not there later. -/
theorem get?_none_of_le (h : s.get? key now = (none, t)) (hle : now ≤ later) :
    s.get? key later = (none, t) := by
  rw [get?] at h ⊢
  cases hentry : s.entry? key with
  | none =>
    rw [hentry] at h
    exact h
  | some e =>
    rw [hentry] at h
    dsimp only at h ⊢
    by_cases hexpired : e.isExpired now = true
    · rw [if_pos hexpired] at h
      rw [if_pos (Entry.isExpired_mono hle hexpired), h]
    · rw [if_neg hexpired] at h
      cases h

/-! ### Making room -/

/-- A full store drops what has expired, or else what went unused longest. -/
theorem makeRoom_cases (h : WellUsed s now) (hne : s.entries ≠ []) :
    (∃ e ∈ s.entries, e.2.isExpired now = true) ∧ s.makeRoom now = (s.purge now).2 ∨
    (∀ e ∈ s.entries, e.2.isExpired now = false) ∧ ∃ x rest, byUse s.entries = x :: rest ∧
      s.makeRoom now = { s.erase x.1 with evictions := s.evictions + 1 } := by
  by_cases hexpired : 0 < s.entries.countP fun e => e.2.isExpired now
  · have hpurge : 0 < (s.purge now).1 := purge_fst s now ▸ hexpired
    exact .inl ⟨List.countP_pos_iff.mp hexpired, if_pos hpurge⟩
  · have hpurge : ¬ 0 < (s.purge now).1 := purge_fst s now ▸ hexpired
    obtain ⟨x, rest, hsorted, holdest⟩ := exists_byUse_eq_cons h hne
    refine .inr ⟨?_, x, rest, hsorted, ?_⟩
    · intro e he
      exact Bool.eq_false_iff.mpr (List.countP_eq_zero.mp (Nat.eq_zero_of_not_pos hexpired) e he)
    · unfold makeRoom
      rw [holdest]
      exact if_neg hpurge

theorem makeRoom_shrinks (h : WellUsed s now) (hne : s.entries ≠ []) :
    (s.makeRoom now).entries.Sublist s.entries ∧
      (s.makeRoom now).entries.length < s.entries.length ∧
      (s.makeRoom now).capacity = s.capacity := by
  rcases makeRoom_cases h hne with ⟨⟨e, he, hexpired⟩, heq⟩ | ⟨-, x, rest, hsorted, heq⟩
  · rw [heq]
    refine ⟨List.filter_sublist, ?_, rfl⟩
    exact List.length_filter_lt_length_iff_exists.mpr ⟨e, he, by simp [hexpired]⟩
  · rw [heq]
    refine ⟨List.filter_sublist, ?_, rfl⟩
    have hx : x ∈ s.entries := mem_of_byUse_eq_cons hsorted
    exact List.length_filter_lt_length_iff_exists.mpr ⟨x, hx, by simp⟩

theorem recency_makeRoom (h : WellUsed s now) (hne : s.entries ≠ []) :
    s.recency.makeRoom now = (s.makeRoom now).recency := by
  have hany : s.recency.items.any (·.isExpired now) = true ↔
      ∃ e ∈ s.entries, e.2.isExpired now = true := by
    rw [List.any_eq_true]
    constructor
    · rintro ⟨i, hi, hexpired⟩
      obtain ⟨e, he, rfl⟩ := mem_recency_iff.mp hi
      exact ⟨e, he, isExpired_ofEntry h he ▸ hexpired⟩
    · rintro ⟨e, he, hexpired⟩
      exact ⟨_, mem_recency_iff.mpr ⟨e, he, rfl⟩, (isExpired_ofEntry h he).trans hexpired⟩
  unfold RecencyList.makeRoom
  rcases makeRoom_cases h hne with ⟨hexpired, heq⟩ | ⟨hlive, x, rest, hsorted, heq⟩
  · rw [if_pos (hany.mpr hexpired), heq, recency_purge h]
  · have hnone : ¬ s.recency.items.any (·.isExpired now) = true := fun hsome => by
      obtain ⟨e, he, hexpired⟩ := hany.mp hsome
      exact Bool.false_ne_true ((hlive e he).symm.trans hexpired)
    have hkeys : ((x :: rest).map Prod.fst).Nodup :=
      hsorted ▸ ((byUse_perm s.entries).map _).nodup_iff.mpr h.keys
    rw [if_neg hnone, heq]
    unfold recency erase
    dsimp only
    -- to take out the key of the first entry is to take off the first entry
    rw [byUse_filter h.uses, hsorted, filter_other_keys hkeys]
    rfl

def roomFor (s : Store κ α) (key : κ) (now : Time) : Store κ α :=
  if (s.entry? key).isNone && s.capacity ≤ s.size then s.makeRoom now else s

theorem insertFor_eq (s : Store κ α) (key : κ) (value : α) (lifetime : Option Nat) (now : Time) :
    s.insertFor key value lifetime now =
      (s.roomFor key now).withLast key (Entry.new value lifetime now) := rfl

/-- Room is made in a store that holds something, or there is room for the key without it. -/
theorem roomFor_cases (h : WellUsed s now) (key : κ) :
    s.entries ≠ [] ∧ s.roomFor key now = s.makeRoom now ∨
    (s.erase key).entries.length < s.capacity ∧ s.roomFor key now = s := by
  unfold roomFor
  split
  next hfull =>
    have hfull := of_decide_eq_true (Bool.and_eq_true_iff.mp hfull).2
    exact .inl ⟨entries_ne_nil_of_full h hfull, rfl⟩
  next hroom =>
    refine .inr ⟨?_, rfl⟩
    cases hentry : s.entry? key with
    | some e => exact length_erase_lt h hentry
    | none =>
      rw [hentry, Option.isNone_none, Bool.true_and, decide_eq_true_eq, Nat.not_le] at hroom
      exact Nat.lt_of_le_of_lt (List.length_filter_le _ _) hroom

theorem roomFor_spec (h : WellUsed s now) (key : κ) : WellUsed (s.roomFor key now) now ∧
    ((s.roomFor key now).erase key).entries.length < s.capacity ∧
    (s.roomFor key now).capacity = s.capacity := by
  rcases roomFor_cases h key with ⟨hne, heq⟩ | ⟨hroom, heq⟩
  · obtain ⟨hsub, hlt, hcapacity⟩ := makeRoom_shrinks h hne
    rw [heq]
    refine ⟨h.of_sublist hsub hcapacity, ?_, hcapacity⟩
    exact Nat.lt_of_le_of_lt (List.length_filter_le _ _) (Nat.lt_of_lt_of_le hlt h.room)
  · rw [heq]
    exact ⟨h, hroom, rfl⟩

theorem lifetime_roomFor (h : WellUsed s now) (key : κ) :
    (s.roomFor key now).lifetime = s.lifetime := by
  rcases roomFor_cases h key with ⟨hne, heq⟩ | ⟨-, heq⟩ <;> rw [heq]
  rcases makeRoom_cases h hne with ⟨-, heq⟩ | ⟨-, x, rest, -, heq⟩ <;> rw [heq] <;> rfl

/-- What stands after a value was stored stood before under another key, or is that value. -/
theorem of_mem_insertFor (h : WellUsed s now) {x : κ × Entry α}
    (hx : x ∈ (s.insertFor key value lifetime now).entries) :
    x.1 ≠ key ∧ x ∈ s.entries ∨ x = (key, Entry.new value lifetime now) := by
  refine (List.mem_append.mp hx).imp (fun hx => ?_) List.mem_singleton.mp
  obtain ⟨hroom, hne⟩ := List.mem_filter.mp hx
  refine ⟨of_decide_eq_true hne, ?_⟩
  rcases roomFor_cases h key with ⟨hfull, heq⟩ | ⟨-, heq⟩
  · exact (makeRoom_shrinks h hfull).1.subset (heq ▸ hroom)
  · exact heq ▸ hroom

theorem recency_insertFor (h : WellUsed s now) (key : κ) (value : α) (lifetime : Option Nat) :
    s.recency.insertFor key value lifetime now = (s.insertFor key value lifetime now).recency := by
  have hfull : ((s.recency.find? key).isNone && decide (s.recency.bound ≤ s.recency.items.length)) =
      ((s.entry? key).isNone && decide (s.capacity ≤ s.size)) := by
    rw [find?_recency h, length_recency, Option.isNone_map]
    rfl
  have hroom : (if (s.recency.find? key).isNone && s.recency.bound ≤ s.recency.items.length
      then s.recency.makeRoom now else s.recency) = (s.roomFor key now).recency := by
    rw [hfull]
    unfold roomFor
    split
    next hfull =>
      have hfull := of_decide_eq_true (Bool.and_eq_true_iff.mp hfull).2
      exact recency_makeRoom h (entries_ne_nil_of_full h hfull)
    next => rfl
  rw [insertFor_eq, recency_withLast (roomFor_spec h key).1 rfl, ← hroom]
  rfl

/-- No live value goes while an expired one is there. -/
theorem mem_insertFor_of_live (h : WellUsed s now)
    (hexpired : ∃ e ∈ s.entries, e.2.isExpired now = true) {key : κ} {value : α}
    {lifetime : Option Nat} {x : κ × Entry α} (hx : x ∈ s.entries)
    (hlive : x.2.isExpired now = false) (hkey : x.1 ≠ key) :
    x ∈ (s.insertFor key value lifetime now).entries := by
  have hroom : x ∈ (s.roomFor key now).entries := by
    rcases roomFor_cases h key with ⟨hne, heq⟩ | ⟨-, heq⟩
    · rw [heq]
      rcases makeRoom_cases h hne with ⟨-, hpurged⟩ | ⟨hnone, -⟩
      · rw [hpurged]
        exact List.mem_filter.mpr ⟨hx, by simp [hlive]⟩
      · obtain ⟨e, he, hexpired⟩ := hexpired
        exact absurd hexpired (Bool.eq_false_iff.mp (hnone e he))
    · rw [heq]
      exact hx
  exact List.mem_append_left _ (List.mem_filter.mpr ⟨hroom, decide_eq_true hkey⟩)

end Store

end TagAtlas
