import TagAtlas.Access.Core
import TagAtlas.Proofs.StoreContents

/-!
# Histories of access control

A history is a list of calls, each with the time at which it is made. The states that access
control can be in are those that some history leads to from valid settings, whatever the calls are
answered.
-/

namespace TagAtlas

inductive AccessCall where
  | addPolicy (p : Policy)
  | removePolicy (id : String)
  | addRole (r : Role)
  | setActive (id : String) (active : Bool)
  | apply (b : Batch)
  | addPermission (p : Permission)
  | clearDecisions
  | check (q : Request)
  | checkBefore (q : Request) (deadline : Time)
  | tryCheck (q : Request)

inductive AccessAnswer where
  | added (isNew : Except Failure Bool)
  | removed (p : Except Failure Policy)
  | done (result : Except Failure Unit)
  | registered (isNew : Bool)
  | cleared
  | checked (d : Decision)
  | timed (d : Decision)
  | tried (d : Except Failure Decision)

namespace AccessCore

def answer (c : AccessCore) (now : Time) : AccessCall → AccessAnswer × AccessCore
  | .addPolicy p => (c.addPolicy p now).map .added id
  | .removePolicy name => (c.removePolicy name).map .removed id
  | .addRole r => (c.addRole r now).map .done id
  | .setActive name active => (c.setActive name active now).map .done id
  | .apply b => (c.apply b now).map .done id
  | .addPermission p => (c.addPermission p).map .registered id
  | .clearDecisions => (.cleared, c.clearDecisions)
  | .check q => (c.check q now).map .checked id
  | .checkBefore q deadline => (c.checkBefore q (some deadline) now).map .timed id
  | .tryCheck q => (c.tryCheck q now).map .tried id

/-- Answers the calls of a history one after another. -/
def run (c : AccessCore) : List (AccessCall × Time) → List AccessAnswer × AccessCore
  | [] => ([], c)
  | (call, now) :: rest =>
    let (a, c) := c.answer now call
    let (answers, c) := c.run rest
    (a :: answers, c)

def initial (settings : AccessSettings) (now : Time) : AccessCore where
  settings := settings
  policies := .empty
  roles := Dict.ofList ((Role.builtin now).map fun r => (r.id, r))
  permissions := .empty
  decisions := Store.new settings.cacheEntries (some settings.cacheLifetime)
  log := []
  hits := 0
  misses := 0

theorem new_eq_ok_iff {settings : AccessSettings} {now : Time} {c : AccessCore} :
    AccessCore.new settings now = .ok c ↔
      settings.validate = .ok () ∧ c = initial settings now := by
  unfold AccessCore.new
  cases settings.validate with
  | error f => simp [Except.map]
  | ok u =>
    simp only [Except.map, Except.ok.injEq, true_and]
    exact eq_comm

/-- The states that access control can be in. -/
inductive Reachable : AccessCore → Prop
  | new {settings : AccessSettings} {now : Time} {c : AccessCore}
      (h : AccessCore.new settings now = .ok c) : Reachable c
  | call {c : AccessCore} (a : AccessCall) (now : Time) (h : Reachable c) :
      Reachable (c.answer now a).2

theorem Reachable.run {c : AccessCore} (h : c.Reachable) (calls : List (AccessCall × Time)) :
    (c.run calls).2.Reachable := by
  induction calls generalizing c with
  | nil => exact h
  | cons e rest ih => exact ih (h.call e.1 e.2)

/-- The same settings, policies, roles and permissions. -/
structure SameStores (c d : AccessCore) : Prop where
  settings : d.settings = c.settings
  policies : d.policies = c.policies
  roles : d.roles = c.roles
  permissions : d.permissions = c.permissions

theorem SameStores.refl (c : AccessCore) : SameStores c c := ⟨rfl, rfl, rfl, rfl⟩

theorem SameStores.trans {c d e : AccessCore} (h : SameStores c d) (h' : SameStores d e) :
    SameStores c e :=
  ⟨h'.settings.trans h.settings, h'.policies.trans h.policies, h'.roles.trans h.roles,
    h'.permissions.trans h.permissions⟩

/-- A verdict that deciding the request afresh gives. -/
def Decides (c : AccessCore) (q : Request) (v : Verdict) : Prop :=
  Verdict.decide c.settings c.policies c.roles q = .ok v

/-- A request is refused unread when it is malformed and that matters. -/
def refuses (c : AccessCore) (q : Request) : Bool := c.settings.strict && !q.isWellFormed

/-- The verdict that is due to a request by the stores alone. -/
def ruling (c : AccessCore) (q : Request) : Except Failure Verdict :=
  if c.refuses q then .ok ⟨.invalidRequest, []⟩
  else Verdict.decide c.settings c.policies c.roles q

variable {c : AccessCore} {q : Request} {deadline : Option Time} {now : Time}

/-! ### What a check can do -/

/-- What deciding a request gives and what it changes. Stores and log stay; a verdict is kept only
if it was kept before or has been decided for the key; and where no verdict is given, the deadline
has passed or there is none. -/
structure Consulted (c : AccessCore) (q : Request) (deadline : Option Time) (now : Time)
    (r : Except Failure Outcome × AccessCore) : Prop where
  stores : SameStores c r.2
  log : r.2.log = c.log
  keeps : ∀ k v, r.2.decisions.Keeps k v → c.decisions.Keeps k v ∨ k = q.key ∧ c.Decides q v
  ok : ∀ o, r.1 = .ok o → c.refuses q = true ∧ o = ⟨⟨.invalidRequest, []⟩, false⟩ ∧ r.2 = c ∨
    c.refuses q = false ∧ isPast deadline now = false ∧
      (o.cacheHit = true ∧ c.decisions.Keeps q.key o.verdict ∨
        o.cacheHit = false ∧ c.Decides q o.verdict)
  error : ∀ f, r.1 = .error f → c.refuses q = false ∧
    (∀ k v, r.2.decisions.Keeps k v → c.decisions.Keeps k v) ∧
    (isPast deadline now = true ∧ (∃ what, f = .timeout what) ∨
      Verdict.decide c.settings c.policies c.roles q = .error f)

/-- Deciding afresh, in a state that differs in what was looked up before at most. -/
theorem evaluate_spec {d : AccessCore} (hstores : SameStores c d) (hlog : d.log = c.log)
    (hkeeps : ∀ k v, d.decisions.Keeps k v → c.decisions.Keeps k v)
    (hread : c.refuses q = false) : Consulted c q deadline now (d.evaluate q deadline now) := by
  have hdecide : Verdict.decide d.settings d.policies d.roles q =
      Verdict.decide c.settings c.policies c.roles q := by
    rw [hstores.settings, hstores.policies, hstores.roles]
  unfold evaluate
  cases hv : Verdict.decide d.settings d.policies d.roles q with
  | error f =>
    refine ⟨hstores, hlog, fun k v h => .inl (hkeeps k v h), by simp, ?_⟩
    intro f' hf
    cases hf
    exact ⟨hread, hkeeps, .inr (hdecide.symm.trans hv)⟩
  | ok v =>
    have hdec : c.Decides q v := hdecide.symm.trans hv
    dsimp only
    cases hpast : isPast deadline now with
    | true =>
      refine ⟨hstores, hlog, fun k v h => .inl (hkeeps k v h), by simp, ?_⟩
      intro f' hf
      cases hf
      exact ⟨hread, hkeeps, .inl ⟨hpast, _, rfl⟩⟩
    | false =>
      have hok : ∀ o, (.ok ⟨v, false⟩ : Except Failure Outcome) = .ok o →
          c.refuses q = false ∧ isPast deadline now = false ∧
            (o.cacheHit = true ∧ c.decisions.Keeps q.key o.verdict ∨
              o.cacheHit = false ∧ c.Decides q o.verdict) := by
        intro o ho
        cases ho
        exact ⟨hread, hpast, .inr ⟨rfl, hdec⟩⟩
      cases d.settings.cacheEnabled with
      | true =>
        refine ⟨⟨hstores.1, hstores.2, hstores.3, hstores.4⟩, hlog, ?_,
          fun o ho => .inr (hok o ho), by simp⟩
        intro k w h
        rcases Store.keeps_of_insert h with ⟨rfl, rfl⟩ | h
        · exact .inr ⟨rfl, hdec⟩
        · exact .inl (hkeeps k w h)
      | false =>
        exact ⟨hstores, hlog, fun k w h => .inl (hkeeps k w h), fun o ho => .inr (hok o ho),
          by simp⟩

theorem consult_spec (c : AccessCore) (q : Request) (deadline : Option Time) (now : Time) :
    Consulted c q deadline now (c.consult q deadline now) := by
  unfold consult
  cases hread : c.refuses q with
  | true =>
    rw [refuses] at hread
    rw [if_pos hread]
    refine ⟨.refl c, rfl, fun k v h => .inl h, ?_, by simp⟩
    intro o ho
    cases ho
    exact .inl ⟨hread, rfl, rfl⟩
  | false =>
    have hread' : ¬ (c.settings.strict && !q.isWellFormed) = true := by
      rw [← refuses, hread]; simp
    rw [if_neg hread']
    split
    · have hkeeps : ∀ k v, (c.decisions.get? q.key now).2.Keeps k v → c.decisions.Keeps k v :=
        fun k v h => Store.keeps_of_get?_snd h
      have hfound : ∀ v, (c.decisions.get? q.key now).1 = some v → c.decisions.Keeps q.key v :=
        fun v h => Store.keeps_of_get?_fst h
      split
      -- what the look-up has found, and what it leaves, was kept before
      next v decisions hget =>
        rw [hget] at hkeeps hfound
        cases hpast : isPast deadline now with
        | true =>
          refine ⟨⟨rfl, rfl, rfl, rfl⟩, rfl, fun k w h => .inl (hkeeps k w h), by simp, ?_⟩
          intro f hf
          cases hf
          exact ⟨hread, hkeeps, .inl ⟨hpast, _, rfl⟩⟩
        | false =>
          refine ⟨⟨rfl, rfl, rfl, rfl⟩, rfl, fun k w h => .inl (hkeeps k w h), ?_, by simp⟩
          intro o ho
          cases ho
          exact .inr ⟨hread, hpast, .inl ⟨rfl, hfound v rfl⟩⟩
      next decisions hget =>
        rw [hget] at hkeeps
        exact evaluate_spec ⟨rfl, rfl, rfl, rfl⟩ rfl hkeeps hread
    · exact evaluate_spec (.refl c) rfl (fun k v h => h) hread

/-- Logging an answer changes the log only. -/
theorem conclude_spec (c : AccessCore) (q : Request) (o : Outcome) :
    (c.conclude q o).1.reason = o.verdict.reason ∧
      (c.conclude q o).1.applied = o.verdict.applied ∧
      ∃ log, (c.conclude q o).2 = { c with log := log } := by
  unfold conclude
  split
  · exact ⟨rfl, rfl, _, rfl⟩
  · exact ⟨rfl, rfl, c.log, rfl⟩

end AccessCore

end TagAtlas
