import TagAtlas.Proofs.StoreRecency

/-!
# Histories of a bounded store

Whatever is asked of a store at later and later times, what is seen of it is what is seen of a list
by recency: the answers, the number of values, and how many were driven out.
-/

namespace TagAtlas

inductive StoreCall (κ α : Type) where
  | insert (key : κ) (value : α)
  | insertFor (key : κ) (value : α) (lifetime : Option Nat)
  | get (key : κ)
  | peek (key : κ)
  | remove (key : κ)
  | removeWhere (test : κ → α → Bool)
  | purge
  | clear

inductive StoreAnswer (α : Type) where
  | done
  | found (value : Option α)
  | dropped (count : Nat)
  deriving DecidableEq

/-- What is seen of a call: the answer, and size and evictions afterwards. -/
structure Seen (α : Type) where
  answer : StoreAnswer α
  size : Nat
  evictions : Nat
  deriving DecidableEq

variable {κ α : Type} [DecidableEq κ]

namespace RecencyList

def answer (r : RecencyList κ α) (now : Time) : StoreCall κ α → StoreAnswer α × RecencyList κ α
  | .insert key value => (.done, r.insertFor key value r.lifetime now)
  | .insertFor key value lifetime => (.done, r.insertFor key value lifetime now)
  | .get key => (r.get? key now).map .found id
  | .peek key => (.found (r.peek? key now), r)
  | .remove key => (.found ((r.find? key).map Held.value), r.without key)
  | .removeWhere test => (r.removeWhere test).map .dropped id
  | .purge => (r.purge now).map .dropped id
  | .clear => (.done, { r with items := [] })

/-- What is seen of the calls of a history, one after another. -/
def observe (r : RecencyList κ α) : List (StoreCall κ α × Time) → List (Seen α)
  | [] => []
  | (call, now) :: rest =>
    let (a, r) := r.answer now call
    ⟨a, r.items.length, r.evictions⟩ :: r.observe rest

end RecencyList

namespace Store

def answer (s : Store κ α) (now : Time) : StoreCall κ α → StoreAnswer α × Store κ α
  | .insert key value => (.done, s.insert key value now)
  | .insertFor key value lifetime => (.done, s.insertFor key value lifetime now)
  | .get key => (s.get? key now).map .found id
  | .peek key => (.found (s.peek? key now), s)
  | .remove key => (s.remove key).map .found id
  | .removeWhere test => (s.removeWhere test).map .dropped id
  | .purge => (s.purge now).map .dropped id
  | .clear => (.done, s.clear)

def observe (s : Store κ α) : List (StoreCall κ α × Time) → List (Seen α)
  | [] => []
  | (call, now) :: rest =>
    let (a, s) := s.answer now call
    ⟨a, s.size, s.evictions⟩ :: s.observe rest

def after (s : Store κ α) (calls : List (StoreCall κ α × Time)) : Store κ α :=
  calls.foldl (fun s c => (s.answer c.2 c.1).2) s

variable {s : Store κ α} {now later : Time} {calls : List (StoreCall κ α × Time)}

/-- Every call is answered from the view, and does to the store what it does to the view. -/
theorem recency_answer (h : WellUsed s now) (call : StoreCall κ α) :
    s.recency.answer now call = ((s.answer now call).1, (s.answer now call).2.recency) := by
  cases call with
  | insert key value => exact congrArg _ (recency_insertFor h key value s.lifetime)
  | insertFor key value lifetime => exact congrArg _ (recency_insertFor h key value lifetime)
  | get key => exact congrArg (fun p => p.map StoreAnswer.found id) (recency_get? h key)
  | peek key => exact congrArg (fun v => (StoreAnswer.found v, s.recency)) (recency_peek? h key)
  | remove key =>
    simp only [RecencyList.answer, find?_recency h, ← recency_erase h, Option.map_map]
    rfl
  | removeWhere test =>
    exact congrArg (fun p => p.map StoreAnswer.dropped id) (recency_removeWhere h test)
  | purge => exact congrArg (fun p => p.map StoreAnswer.dropped id) (recency_purge h)
  | clear => simp only [RecencyList.answer, answer, clear, recency, byUse_nil, List.map_nil]

theorem wellUsed_insertFor (h : WellUsed s now) (key : κ) (value : α) (lifetime : Option Nat)
    (hlater : now < later) : WellUsed (s.insertFor key value lifetime now) later := by
  obtain ⟨hused, hroom, hcapacity⟩ := roomFor_spec h key
  exact hused.withLast rfl (Int.le_refl now) (hcapacity ▸ hroom) hlater

theorem wellUsed_get? (h : WellUsed s now) (key : κ) (hlater : now < later) :
    WellUsed (s.get? key now).2 later := by
  have hsame := h.mono (Int.le_of_lt hlater)
  unfold get?
  cases hentry : s.entry? key with
  | none => exact hsame
  | some e =>
    dsimp only
    split
    · exact hsame.of_sublist List.filter_sublist rfl
    · have hmem := mem_of_entry? hentry
      have hused := h.withLast (e := e.touch now) rfl (Int.le_of_lt (h.createdAt_lt hmem))
        (length_erase_lt h hentry) hlater
      exact hused.of_perm (map_touch_perm h hentry) rfl

theorem wellUsed_answer (h : WellUsed s now) (call : StoreCall κ α) (hlater : now < later) :
    WellUsed (s.answer now call).2 later := by
  have hsame := h.mono (Int.le_of_lt hlater)
  cases call with
  | insert key value => exact wellUsed_insertFor h key value s.lifetime hlater
  | insertFor key value lifetime => exact wellUsed_insertFor h key value lifetime hlater
  | get key => exact wellUsed_get? h key hlater
  | peek key => exact hsame
  | remove key => exact hsame.of_sublist List.filter_sublist rfl
  | removeWhere test => exact hsame.of_sublist List.filter_sublist rfl
  | purge => exact hsame.of_sublist List.filter_sublist rfl
  | clear => exact hsame.of_sublist (List.nil_sublist _) rfl

omit [DecidableEq κ] in
theorem wellUsed_new (capacity : Nat) (lifetime : Option Nat) (now : Time) :
    WellUsed (Store.new capacity lifetime : Store κ α) now where
  keys := .nil
  uses := .nil
  created := List.forall_mem_nil _
  before := List.forall_mem_nil _
  positive := Nat.lt_of_lt_of_le Nat.zero_lt_one (Nat.le_max_right _ _)
  room := Nat.zero_le _

/-- Later calls find a store in which everything was used before them. -/
theorem wellUsed_rest {c : StoreCall κ α × Time} (hs : ∀ d ∈ c :: calls, WellUsed s d.2)
    (hlater : ((c :: calls).map Prod.snd).Pairwise (· < ·)) :
    ∀ d ∈ calls, WellUsed (s.answer c.2 c.1).2 d.2 := by
  intro d hd
  have hlt := (List.pairwise_cons.mp hlater).1 d.2 (List.mem_map_of_mem hd)
  exact wellUsed_answer (hs c List.mem_cons_self) c.1 hlt

/-- A whole history is seen alike, by induction on the calls. -/
theorem observe_recency (hs : ∀ c ∈ calls, WellUsed s c.2)
    (hlater : (calls.map Prod.snd).Pairwise (· < ·)) :
    s.observe calls = s.recency.observe calls := by
  induction calls generalizing s with
  | nil => rfl
  | cons c calls ih =>
    have hrest := ih (wellUsed_rest hs hlater) (List.pairwise_cons.mp hlater).2
    unfold observe RecencyList.observe
    rw [recency_answer (hs c List.mem_cons_self) c.1]
    dsimp only
    rw [hrest, length_recency]
    rfl

theorem wellUsed_after (hs : ∀ c ∈ calls, WellUsed s c.2) {now : Time} (hnow : WellUsed s now)
    (hlater : (calls.map Prod.snd).Pairwise (· < ·)) (hlast : ∀ c ∈ calls, c.2 < now) :
    WellUsed (s.after calls) now := by
  induction calls generalizing s with
  | nil => exact hnow
  | cons c calls ih =>
    exact ih (wellUsed_rest hs hlater)
      (wellUsed_answer (hs c List.mem_cons_self) c.1 (hlast c List.mem_cons_self))
      (List.pairwise_cons.mp hlater).2 fun d hd => hlast d (List.mem_cons_of_mem _ hd)

theorem capacity_answer (h : WellUsed s now) (call : StoreCall κ α) :
    (s.answer now call).2.capacity = s.capacity := by
  cases call with
  | insert key value => exact (roomFor_spec h key).2.2
  | insertFor key value lifetime => exact (roomFor_spec h key).2.2
  | get key =>
    change (s.get? key now).2.capacity = s.capacity
    unfold get?
    split
    · rfl
    · split <;> rfl
  | _ => rfl

theorem size_le_of_mem_observe (hs : ∀ c ∈ calls, WellUsed s c.2)
    (hlater : (calls.map Prod.snd).Pairwise (· < ·)) :
    ∀ seen ∈ s.observe calls, seen.size ≤ s.capacity := by
  induction calls generalizing s with
  | nil => exact List.forall_mem_nil _
  | cons c calls ih =>
    have hc := hs c List.mem_cons_self
    have hcapacity := capacity_answer hc c.1
    have hroom := (wellUsed_answer hc c.1 (Int.lt_succ c.2)).room
    have hrest := ih (wellUsed_rest hs hlater) (List.pairwise_cons.mp hlater).2
    exact List.forall_mem_cons.mpr ⟨hcapacity ▸ hroom, hcapacity ▸ hrest⟩

/-- A store that is asked at later and later times is a list by recency: what is seen of it is the
same. So it never outgrows its bound, and no live value goes while an expired one is there. -/
theorem observe_eq_recencyList (capacity : Nat) (lifetime : Option Nat)
    {calls : List (StoreCall κ α × Time)} (hlater : (calls.map Prod.snd).Pairwise (· < ·)) :
    (Store.new capacity lifetime).observe calls =
        (RecencyList.new capacity lifetime).observe calls ∧
      (∀ seen ∈ (Store.new capacity lifetime).observe calls, seen.size ≤ max capacity 1) ∧
      ∀ now, (∀ c ∈ calls, c.2 < now) →
        let s := (Store.new capacity lifetime).after calls
        (∃ e ∈ s.entries, e.2.isExpired now = true) →
          ∀ key value span, ∀ e ∈ s.entries, e.2.isExpired now = false → e.1 ≠ key →
            e ∈ (s.insertFor key value span now).entries := by
  have hstart : ∀ c ∈ calls, WellUsed (Store.new capacity lifetime : Store κ α) c.2 :=
    fun c _ => wellUsed_new capacity lifetime c.2
  have hview : (Store.new capacity lifetime : Store κ α).recency =
      RecencyList.new capacity lifetime := by
    simp only [recency, new, byUse_nil, List.map_nil, RecencyList.new]
  refine ⟨?_, size_le_of_mem_observe hstart hlater, ?_⟩
  · rw [observe_recency hstart hlater, hview]
  · intro now hlast s hexpired key value span e he hlive hkey
    have hused : WellUsed s now :=
      wellUsed_after hstart (wellUsed_new capacity lifetime now) hlater hlast
    exact mem_insertFor_of_live hused hexpired he hlive hkey

/-- Two values fill the store: first the one that went unused longest goes, then one that expired. -/
theorem observe_eq_recencyList_full :
    let calls : List (StoreCall String Nat × Time) := [(.insertFor "a" 1 (some 5), 1),
      (.insert "b" 2, 2), (.get "a", 3), (.insert "c" 3, 4), (.peek "b", 5), (.insert "d" 4, 9),
      (.get "a", 10), (.removeWhere fun _ v => v = 4, 11)]
    let seen : List (Seen Nat) := [⟨.done, 1, 0⟩, ⟨.done, 2, 0⟩, ⟨.found (some 1), 2, 0⟩,
      ⟨.done, 2, 1⟩, ⟨.found none, 2, 1⟩, ⟨.done, 2, 2⟩, ⟨.found none, 2, 2⟩, ⟨.dropped 1, 1, 2⟩]
    (calls.map Prod.snd).Pairwise (· < ·) ∧ (Store.new 2 none).observe calls = seen ∧
      (RecencyList.new 2 none).observe calls = seen := by
  intro calls seen
  have hlater : (calls.map Prod.snd).Pairwise (· < ·) := by decide
  have hseen : (Store.new 2 none).observe calls = seen := by decide
  exact ⟨hlater, hseen, (observe_eq_recencyList 2 none hlater).1.symm.trans hseen⟩

end Store

end TagAtlas
