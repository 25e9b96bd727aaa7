import Mathlib
import TagAtlas.Cache.Files
import TagAtlas.Proofs.StoreHistory

/-!
# Histories of a cache of file summaries

A cache asks its store to peek, to insert, to remove and to clear, and counts how the look-ups went.
Look-ups note no use, so whatever the store keeps was last used when it was set, and nothing has
been done to its key since.
-/

namespace TagAtlas

inductive FileCall where
  | get (key : String)
  | set (key : String) (bytes : List UInt8)
  | delete (key : String)
  | clear

inductive FileAnswer where
  | found (bytes : Option (List UInt8))
  | done
  | deleted (was : Bool)
  deriving DecidableEq

def FileAnswer.isHit : FileAnswer → Bool
  | .found (some _) => true
  | _ => false

namespace FileCall

def isGet : FileCall → Bool
  | .get _ => true
  | _ => false

def setKey? : FileCall → Option String
  | .set key _ => some key
  | _ => none

/-- The call is not about a key, unless to look it up. -/
def Spares (key : String) : FileCall → Prop
  | .get _ => True
  | .set other _ => other ≠ key
  | .delete other => other ≠ key
  | .clear => False

theorem Spares.setKey?_ne {key : String} {call : FileCall} (h : call.Spares key) :
    call.setKey? ≠ some key := by
  cases call with
  | set other bytes => exact fun heq => h (Option.some.inj heq)
  | _ => nofun

def request : FileCall → StoreCall String (List UInt8)
  | .get key => .peek key
  | .set key bytes => .insert key bytes
  | .delete key => .remove key
  | .clear => .clear

def requests (calls : List (FileCall × Time)) : List (StoreCall String (List UInt8) × Time) :=
  calls.map fun c => (c.1.request, c.2)

def lastSet? (key : String) (calls : List (FileCall × Time)) : Option Time :=
  ((calls.filter fun c => c.1.setKey? = some key).getLast?).map Prod.snd

def otherKeys (key : String) (calls : List (FileCall × Time)) : Finset String :=
  (calls.filterMap fun c => c.1.setKey?).toFinset.erase key

/-- Bytes were set under a key at a time, and have been spared since. -/
def Stands (calls : List (FileCall × Time)) (key : String) (bytes : List UInt8) (t : Time) :
    Prop :=
  ∃ before since, calls = before ++ (.set key bytes, t) :: since ∧ ∀ c ∈ since, c.1.Spares key

/-- Calls at later and later times, all before a time. -/
def Increasing (calls : List (FileCall × Time)) (now : Time) : Prop :=
  (calls.map Prod.snd ++ [now]).Pairwise (· < ·)

theorem increasing_concat {calls : List (FileCall × Time)} {call : FileCall × Time} {now : Time}
    (h : Increasing (calls ++ [call]) now) : Increasing calls call.2 ∧ call.2 < now := by
  rw [Increasing, List.map_append] at h
  obtain ⟨hcalls, -, hlast⟩ := List.pairwise_append.mp h
  exact ⟨hcalls, hlast _ (List.mem_append_right _ List.mem_cons_self) _ List.mem_cons_self⟩

section stands

variable {calls : List (FileCall × Time)} {key : String} {bytes : List UInt8} {t : Time}

theorem stands_concat (calls : List (FileCall × Time)) (key : String) (bytes : List UInt8)
    (t : Time) : Stands (calls ++ [(.set key bytes, t)]) key bytes t :=
  ⟨calls, [], rfl, List.forall_mem_nil _⟩

theorem Stands.concat (h : Stands calls key bytes t) {c : FileCall × Time}
    (hc : c.1.Spares key) : Stands (calls ++ [c]) key bytes t := by
  obtain ⟨before, since, rfl, hsince⟩ := h
  refine ⟨before, since ++ [c], List.append_assoc .., ?_⟩
  exact List.forall_mem_append.mpr ⟨hsince, List.forall_mem_singleton.mpr hc⟩

theorem Stands.lastSet?_eq (h : Stands calls key bytes t) : lastSet? key calls = some t := by
  obtain ⟨before, since, rfl, hsince⟩ := h
  have hnone : since.filter (fun c => decide (c.1.setKey? = some key)) = [] :=
    List.filter_eq_nil_iff.mpr fun c hc => by simpa using (hsince c hc).setKey?_ne
  rw [lastSet?, List.filter_append, List.filter_cons_of_pos (by simp [setKey?]), hnone,
    List.getLast?_concat]
  rfl

theorem otherKeys_concat (key : String) (calls : List (FileCall × Time)) (c : FileCall × Time) :
    otherKeys key (calls ++ [c]) =
      otherKeys key calls ∪ (c.1.setKey?.toFinset).erase key := by
  have hkeys : ([c].filterMap fun c => c.1.setKey?).toFinset = c.1.setKey?.toFinset := by
    cases h : c.1.setKey? <;> simp [h]
  rw [otherKeys, List.filterMap_append, List.toFinset_append, hkeys, Finset.erase_union_distrib,
    otherKeys]

end stands

end FileCall

namespace FileCache

open FileCall

def answer (c : FileCache) (now : Time) : FileCall → FileAnswer × FileCache
  | .get key => (c.get? key now).map .found id
  | .set key bytes => (.done, c.set key bytes now)
  | .delete key => c.delete key |>.map .deleted id
  | .clear => (.done, c.clear)

def answers (c : FileCache) : List (FileCall × Time) → List FileAnswer
  | [] => []
  | (call, now) :: rest => (c.answer now call).1 :: (c.answer now call).2.answers rest

def after (c : FileCache) (calls : List (FileCall × Time)) : FileCache :=
  calls.foldl (fun c call => (c.answer call.2 call.1).2) c

def entries : FileCache → List (String × Entry (List UInt8))
  | .none _ => []
  | .memory store _ _ => store.entries

/-! ### Hits and misses -/

theorem stats_answer (c : FileCache) (now : Time) (call : FileCall) :
    (c.answer now call).2.stats.hits = c.stats.hits + (c.answer now call).1.isHit.toNat ∧
      (c.answer now call).2.stats.hits + (c.answer now call).2.stats.misses =
        c.stats.hits + c.stats.misses + call.isGet.toNat := by
  cases c with
  | none misses => cases call <;> exact ⟨rfl, rfl⟩
  | memory store hits misses =>
    cases call with
    | get key =>
      simp only [answer, get?]
      cases store.peek? key now with
      | none => exact ⟨rfl, rfl⟩
      | some bytes => exact ⟨rfl, Nat.add_right_comm hits 1 misses⟩
    | _ => exact ⟨rfl, rfl⟩

/-- Each look-up is counted once, and as a hit if it is answered with bytes. -/
theorem stats_after (c : FileCache) (calls : List (FileCall × Time)) :
    (c.after calls).stats.hits = c.stats.hits + (c.answers calls).countP FileAnswer.isHit ∧
      (c.after calls).stats.hits + (c.after calls).stats.misses =
        c.stats.hits + c.stats.misses + calls.countP fun call => call.1.isGet := by
  induction calls generalizing c with
  | nil => exact ⟨rfl, rfl⟩
  | cons call rest ih =>
    have hafter : c.after (call :: rest) = (c.answer call.2 call.1).2.after rest := rfl
    obtain ⟨hhits, hboth⟩ := stats_answer c call.2 call.1
    obtain ⟨hhits', hboth'⟩ := ih (c.answer call.2 call.1).2
    simp only [Bool.toNat, Bool.cond_eq_ite] at hhits hboth
    rw [hafter, answers, List.countP_cons, List.countP_cons]
    omega

/-! ### The store of a cache -/

theorem answer_memory (store : Store String (List UInt8)) (hits misses : Nat) (now : Time)
    (call : FileCall) : ∃ hits' misses', ((memory store hits misses).answer now call).2 =
      .memory (store.answer now call.request).2 hits' misses' := by
  cases call with
  | get key =>
    simp only [answer, get?]
    cases store.peek? key now with
    | none => exact ⟨hits, misses + 1, rfl⟩
    | some bytes => exact ⟨hits + 1, misses, rfl⟩
  | _ => exact ⟨hits, misses, rfl⟩

theorem after_memory (store : Store String (List UInt8)) (hits misses : Nat)
    (calls : List (FileCall × Time)) : ∃ hits' misses', (memory store hits misses).after calls =
      .memory (store.after (requests calls)) hits' misses' := by
  induction calls generalizing store hits misses with
  | nil => exact ⟨hits, misses, rfl⟩
  | cons call rest ih =>
    obtain ⟨hits', misses', hanswer⟩ := answer_memory store hits misses call.2 call.1
    change ∃ hits'' misses'', ((memory store hits misses).answer call.2 call.1).2.after rest = _
    rw [hanswer]
    exact ih _ hits' misses'

end FileCache

namespace Store

open FileCall

variable {s t : Store String (List UInt8)} {now later : Time} {capacity lifetime : Nat}
  {calls : List (FileCall × Time)} {call : FileCall × Time}

/-- Look-ups leave no trace. -/
theorem after_requests_filter (s : Store String (List UInt8)) (calls : List (FileCall × Time)) :
    s.after (requests (calls.filter fun call => !call.1.isGet)) = s.after (requests calls) := by
  induction calls generalizing s with
  | nil => rfl
  | cons call rest ih =>
    obtain ⟨call, now⟩ := call
    cases call with
    | get key => exact ih s
    | _ => exact ih _

theorem after_requests_concat (s : Store String (List UInt8)) (calls : List (FileCall × Time))
    (call : FileCall × Time) : s.after (requests (calls ++ [call])) =
      ((s.after (requests calls)).answer call.2 call.1.request).2 := by
  rw [after, requests, List.map_append, List.foldl_append]
  rfl

/-- A store that was asked what a cache asks. -/
structure Serves (capacity lifetime : Nat) (calls : List (FileCall × Time))
    (s : Store String (List UInt8)) (now : Time) : Prop where
  used : s.WellUsed now
  capacity_eq : s.capacity = max capacity 1
  lifetime_eq : s.lifetime = some lifetime
  stands : ∀ x ∈ s.entries, ∃ bytes t,
    Stands calls x.1 bytes t ∧ x.2 = Entry.new bytes (some lifetime) t

namespace Serves

theorem new (capacity lifetime : Nat) (now : Time) :
    Serves capacity lifetime [] (Store.new capacity (some lifetime)) now :=
  ⟨wellUsed_new capacity _ now, rfl, rfl, List.forall_mem_nil _⟩

theorem answer (h : Serves capacity lifetime calls s call.2) (hlater : call.2 < later) :
    Serves capacity lifetime (calls ++ [call]) (s.answer call.2 call.1.request).2 later := by
  have hused := wellUsed_answer h.used call.1.request hlater
  have hcapacity := (capacity_answer h.used call.1.request).trans h.capacity_eq
  -- what a call spares stands as before
  have hspared : ∀ x ∈ s.entries, call.1.Spares x.1 → ∃ bytes t,
      Stands (calls ++ [call]) x.1 bytes t ∧ x.2 = Entry.new bytes (some lifetime) t := by
    intro x hx hspares
    obtain ⟨bytes, t, hstands, heq⟩ := h.stands x hx
    exact ⟨bytes, t, hstands.concat hspares, heq⟩
  obtain ⟨asked, now⟩ := call
  cases asked with
  | get key => exact ⟨hused, hcapacity, h.lifetime_eq, fun x hx => hspared x hx trivial⟩
  | set key bytes =>
    refine ⟨hused, hcapacity, (lifetime_roomFor h.used key).trans h.lifetime_eq, fun x hx => ?_⟩
    rcases of_mem_insertFor h.used hx with ⟨hne, hx⟩ | rfl
    · exact hspared x hx hne.symm
    · exact ⟨bytes, now, stands_concat calls key bytes now, by rw [h.lifetime_eq]⟩
  | delete key =>
    refine ⟨hused, hcapacity, h.lifetime_eq, fun x hx => ?_⟩
    obtain ⟨hx, hne⟩ := List.mem_filter.mp hx
    exact hspared x hx (of_decide_eq_true hne).symm
  | clear => exact ⟨hused, hcapacity, h.lifetime_eq, List.forall_mem_nil _⟩

/-- By induction on the calls, the last one first. -/
theorem after (capacity lifetime : Nat) (h : Increasing calls now) : Serves capacity lifetime calls
    ((Store.new capacity (some lifetime)).after (requests calls)) now := by
  induction calls using List.reverseRecOn generalizing now with
  | nil => exact .new capacity lifetime now
  | append_singleton calls call ih =>
    obtain ⟨hcalls, hlater⟩ := increasing_concat h
    rw [after_requests_concat]
    exact (ih hcalls).answer hlater

end Serves

end Store

end TagAtlas
