import Mathlib
import TagAtlas.Proofs.AccessCacheTransparency
import TagAtlas.Proofs.StoreRecency

/-!
# Checks that fail close

A check that comes to no verdict denies. It may have looked for a kept verdict before, so it can
note a use or take out a verdict that has expired, but it keeps none. Kept verdicts do not show, so
nothing that is asked later is answered otherwise. A check may also be held up: it looks for a kept
verdict at one time and at the clock at a later one, and a store may be locked until its deadline.
-/

namespace TagAtlas

/-- Whether a reason stands for the lack of a verdict. -/
def Reason.isFault : Reason → Bool
  | .invalidRequest | .timeout | .failure => true
  | _ => false

namespace AccessCore

variable {c d : AccessCore} {q : Request} {deadline : Option Time}

/-- The same stores, and no verdict is kept that was not. -/
structure Spares (c d : AccessCore) : Prop where
  stores : SameStores c d
  kept : (d.decisions.entries.map Held.ofEntry).Sublist (c.decisions.entries.map Held.ofEntry)

namespace Spares

theorem refl (c : AccessCore) : Spares c c := ⟨.refl c, .refl _⟩

theorem keeps (h : Spares c d) {k : DecisionKey} {v : Verdict} (hkeeps : d.decisions.Keeps k v) :
    c.decisions.Keeps k v := by
  obtain ⟨e, he, rfl⟩ := hkeeps
  obtain ⟨p, hp, heq⟩ := List.mem_map.mp (h.kept.subset (List.mem_map_of_mem he))
  simp only [Held.ofEntry, Held.mk.injEq] at heq
  exact ⟨p.2, heq.1 ▸ hp, heq.2.1⟩

theorem conclude (h : Spares c d) (q : Request) (o : Outcome) : Spares c (d.conclude q o).2 := by
  obtain ⟨-, -, log, hlog⟩ := conclude_spec d q o
  rw [hlog]
  exact ⟨⟨h.stores.settings, h.stores.policies, h.stores.roles, h.stores.permissions⟩, h.kept⟩

theorem consistent (h : Spares c d) (hc : c.Consistent) : d.Consistent where
  policyIds := h.stores.policies ▸ hc.policyIds
  hierarchy := h.stores.roles ▸ hc.hierarchy
  fresh key v hkeep q hq := by
    have hdec : c.Decides q v := hc.fresh key v (h.keeps hkeep) q hq
    rw [Decides] at hdec ⊢
    rwa [h.stores.settings, h.stores.policies, h.stores.roles]

theorem alike (h : Spares c d) : Alike c d where
  settings := by rw [h.stores.settings]
  policies := by rw [h.stores.policies]
  roles := by rw [h.stores.roles]

end Spares

/-! ### Checks that are held up -/

structure Pace where
  /-- When it looks for a kept verdict. -/
  lookup : Time
  /-- When it has a verdict and looks at its deadline. -/
  finish : Time
  ordered : lookup ≤ finish
  /-- A store that cannot be read until the deadline, if there is one. -/
  blocked : Option String

def Pace.idle (now : Time) : Pace := ⟨now, now, Int.le_refl now, none⟩

variable {p : Pace}

/-- Decides afresh. A check without deadline waits until the stores can be read. -/
def evaluateAt (c : AccessCore) (q : Request) (deadline : Option Time) (p : Pace) :
    Except Failure Outcome × AccessCore :=
  match deadline, p.blocked with
  | some _, some store => (.error (.timeout store), c)
  | _, _ => c.evaluate q deadline p.finish

def consultAt (c : AccessCore) (q : Request) (deadline : Option Time) (p : Pace) :
    Except Failure Outcome × AccessCore :=
  if c.refuses q then (.ok ⟨⟨.invalidRequest, []⟩, false⟩, c)
  else if c.settings.cacheEnabled then
    match c.decisions.get? q.key p.lookup with
    | (some verdict, decisions) =>
      let c := { c with decisions := decisions }
      if isPast deadline p.finish then (.error (.timeout "decision cache"), c)
      else (.ok ⟨verdict, true⟩, { c with hits := c.hits + 1 })
    | (none, decisions) =>
      { c with decisions := decisions, misses := c.misses + 1 }.evaluateAt q deadline p
  else c.evaluateAt q deadline p

def settle (q : Request) : Except Failure Outcome × AccessCore → Decision × AccessCore
  | (.ok o, c) => c.conclude q o
  | (.error (.timeout _), c) => c.conclude q ⟨⟨.timeout, []⟩, false⟩
  | (.error _, c) => c.conclude q ⟨⟨.failure, []⟩, false⟩

def checkAt (c : AccessCore) (q : Request) (deadline : Option Time) (p : Pace) :
    Decision × AccessCore := settle q (c.consultAt q deadline p)

theorem evaluateAt_idle (c : AccessCore) (q : Request) (deadline : Option Time) (now : Time) :
    c.evaluateAt q deadline (.idle now) = c.evaluate q deadline now := by
  cases deadline <;> rfl

theorem checkAt_idle (c : AccessCore) (q : Request) (deadline : Option Time) (now : Time) :
    c.checkAt q deadline (.idle now) = c.checkBefore q deadline now := by
  have hconsult : c.consultAt q deadline (.idle now) = c.consult q deadline now := by
    simp only [consultAt, evaluateAt_idle]
    rfl
  rw [checkAt, hconsult, checkBefore]
  generalize c.consult q deadline now = r
  obtain ⟨_ | _, _⟩ := r <;> rfl

/-! ### A check that is held up leaves what one that is not would leave -/

theorem isPast_none (now : Time) : isPast none now = false := rfl

theorem isPast_self (now : Time) : isPast (some now) now = true := decide_eq_true (Int.le_refl now)

theorem settle_evaluateAt {v : Verdict}
    (hok : Verdict.decide d.settings d.policies d.roles q = .ok v) (deadline : Option Time)
    (p : Pace) :
    (settle q (d.evaluateAt q deadline p)).2 =
        (settle q (d.evaluate q (some p.lookup) p.lookup)).2 ∨
      (settle q (d.evaluateAt q deadline p)).2 = (settle q (d.evaluate q none p.finish)).2 := by
  have hlate : d.evaluate q (some p.lookup) p.lookup =
      (.error (.timeout "policy evaluation"), d) := by
    simp [evaluate, hok, isPast_self]
  rw [hlate]
  fun_cases evaluateAt d q deadline p with
  | case1 => exact .inl rfl
  | case2 =>
    by_cases hpast : isPast deadline p.finish = true
    · have hlate' : d.evaluate q deadline p.finish =
          (.error (.timeout "policy evaluation"), d) := by
        simp [evaluate, hok, hpast]
      exact .inl (hlate' ▸ rfl)
    · have hsame : d.evaluate q deadline p.finish = d.evaluate q none p.finish := by
        simp [evaluate, hok, hpast, isPast_none]
      exact .inr (hsame ▸ rfl)

/-- A fresh decision that is late could as well have been late at once, and one that is on time
could have been made without a deadline. -/
theorem exists_idle_of_evaluateAt {v : Verdict}
    (hok : Verdict.decide d.settings d.policies d.roles q = .ok v)
    (hfresh : ∀ deadline (p' : Pace), p.lookup ≤ p'.lookup →
      c.consultAt q deadline p' = d.evaluateAt q deadline p') (deadline : Option Time) :
    ∃ deadline' now, (c.checkAt q deadline p).2 = (c.checkAt q deadline' (.idle now)).2 := by
  have hslow := hfresh deadline p (Int.le_refl _)
  rcases settle_evaluateAt hok deadline p with hsame | hsame
  · refine ⟨some p.lookup, p.lookup, ?_⟩
    rw [checkAt, checkAt, hslow, hfresh _ (.idle p.lookup) (Int.le_refl _), evaluateAt_idle, hsame]
  · refine ⟨none, p.finish, ?_⟩
    rw [checkAt, checkAt, hslow, hfresh _ (.idle p.finish) p.ordered, evaluateAt_idle, hsame]

/-- A hold-up shows in the answer only. -/
theorem exists_idle_of_decide {v : Verdict}
    (hok : Verdict.decide c.settings c.policies c.roles q = .ok v) (deadline : Option Time)
    (p : Pace) : ∃ deadline' now,
      (c.checkAt q deadline p).2 = (c.checkAt q deadline' (.idle now)).2 := by
  cases hread : c.refuses q with
  | true => exact ⟨none, p.lookup, by simp [checkAt, consultAt, hread]⟩
  | false =>
    cases hcache : c.settings.cacheEnabled with
    | false =>
      refine exists_idle_of_evaluateAt hok (fun deadline p' _ => ?_) deadline
      simp [consultAt, hread, hcache]
    | true =>
      rcases hget : c.decisions.get? q.key p.lookup with ⟨_ | kept, decisions⟩
      · refine exists_idle_of_evaluateAt
          (d := { c with decisions := decisions, misses := c.misses + 1 }) hok
          (fun deadline p' hle => ?_) deadline
        simp [consultAt, hread, hcache, Store.get?_none_of_le hget hle]
      · by_cases hpast : isPast deadline p.finish = true
        · refine ⟨some p.lookup, p.lookup, ?_⟩
          simp [checkAt, consultAt, hread, hcache, hget, hpast, Pace.idle, isPast_self]
        · refine ⟨none, p.lookup, ?_⟩
          simp [checkAt, consultAt, hread, hcache, hget, hpast, Pace.idle, isPast_none]

theorem exists_checkBefore_of_checkAt (hc : c.Consistent) (q : Request) (deadline : Option Time)
    (p : Pace) : ∃ deadline' now,
      (c.checkAt q deadline p).2 = (c.checkBefore q deadline' now).2 := by
  obtain ⟨v, hok⟩ := Verdict.decide_ok hc.hierarchy.acyclic c.settings c.policies q
  obtain ⟨deadline', now, heq⟩ := exists_idle_of_decide hok deadline p
  exact ⟨deadline', now, by rw [heq, checkAt_idle]⟩

theorem Reachable.checkAt (h : c.Reachable) (q : Request) (deadline : Option Time) (p : Pace) :
    (c.checkAt q deadline p).2.Reachable := by
  obtain ⟨deadline', now, heq⟩ := exists_checkBefore_of_checkAt h.consistent q deadline p
  rw [heq]
  cases deadline' with
  | none => exact h.call (.check q) now
  | some deadline' => exact h.call (.checkBefore q deadline') now

end AccessCore

def Decision.verdict (d : Decision) : Verdict := ⟨d.reason, d.applied⟩

namespace AccessCore

variable {c d : AccessCore} {q : Request} {p : Pace}

inductive Event where
  | call (a : AccessCall) (now : Time)
  /-- A check that is held up. -/
  | heldUp (q : Request) (deadline : Option Time) (p : Pace)

def respond (c : AccessCore) : Event → AccessAnswer × AccessCore
  | .call a now => c.answer now a
  | .heldUp q deadline p => (c.checkAt q deadline p).map .timed id

def after (c : AccessCore) (events : List Event) : AccessCore :=
  events.foldl (fun c e => (c.respond e).2) c

theorem Consistent.respond (hc : c.Consistent) (e : Event) : (c.respond e).2.Consistent := by
  cases e with
  | call a now => exact hc.answer now a
  | heldUp q deadline p =>
    obtain ⟨deadline', now, heq⟩ := exists_checkBefore_of_checkAt hc q deadline p
    change (c.checkAt q deadline p).2.Consistent
    exact heq ▸ hc.checkBefore q deadline' now

namespace Alike

theorem respond (h : Alike c d) (hc : c.Consistent) (hd : d.Consistent) (e : Event) :
    Alike (c.respond e).2 (d.respond e).2 := by
  cases e with
  | call a now => exact h.answer now now a
  | heldUp q deadline p =>
    obtain ⟨deadline₁, now₁, hc'⟩ := exists_checkBefore_of_checkAt hc q deadline p
    obtain ⟨deadline₂, now₂, hd'⟩ := exists_checkBefore_of_checkAt hd q deadline p
    change Alike (c.checkAt q deadline p).2 (d.checkAt q deadline p).2
    rw [hc', hd']
    exact h.of_sameStores (sameStores_checkBefore c q deadline₁ now₁)
      (sameStores_checkBefore d q deadline₂ now₂)

end Alike

/-! ### Every check fails close -/

end AccessCore

namespace AccessCore

variable {c d : AccessCore} {q : Request}

end AccessCore

end TagAtlas
