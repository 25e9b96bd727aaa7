import TagAtlas.Proofs.AccessFaults

/-!
# The log is the tail of the history of decisions

Every check that is answered is concluded once, in whatever way it was decided, and the conclusion
is logged. Nothing else touches the log, and a full log loses its oldest entry, so it holds the last
decisions of the history, up to its limit. What is asked of it is a tail of that tail.
-/

namespace TagAtlas

/-! ### Tails of lists -/

section Tails

variable {α : Type}

theorem rtake_rtake (l : List α) (m n : Nat) :
    (l.rtake m).rtake n = l.rtake (min n (min m l.length)) := by
  unfold List.rtake
  rw [List.drop_drop, List.length_drop]
  congr 1
  omega

/-- Putting an item behind a tail that is as long as the limit makes room in front. -/
theorem rtake_concat_of_limit {limit : Nat} (hpos : 0 < limit) (l : List α) (x : α) :
    (l ++ [x]).rtake limit =
      (if limit ≤ (l.rtake limit).length then (l.rtake limit).drop 1 else l.rtake limit) ++
        [x] := by
  obtain ⟨k, rfl⟩ := Nat.exists_eq_succ_of_ne_zero (Nat.ne_of_gt hpos)
  rw [List.rtake_concat_succ]
  congr 1
  unfold List.rtake
  rw [List.length_drop]
  split
  next hfull =>
    rw [List.drop_drop]
    congr 1
    omega
  next hroom =>
    congr 1
    omega

end Tails

def AuditEntry.ofDecision (q : Request) (d : Decision) : AuditEntry :=
  ⟨q.id, q.subject, q.action, q.resource, d.reason, d.cacheHit, q.context⟩

def AccessAnswer.decision? : AccessAnswer → Option Decision
  | .checked d | .timed d | .tried (.ok d) => some d
  | _ => none

namespace AccessCore

def Event.request? : Event → Option Request
  | .call (.check q) _ | .call (.checkBefore q _) _ | .call (.tryCheck q) _
  | .heldUp q _ _ => some q
  | _ => none

/-- The request that was decided and the decision, if the answer gives one. -/
def Event.decided? (e : Event) (a : AccessAnswer) : Option (Request × Decision) :=
  e.request?.bind fun q => a.decision?.map (q, ·)

/-- The decisions that come of a row of events, and the state after them. -/
def live (c : AccessCore) : List Event → List (Request × Decision) × AccessCore
  | [] => ([], c)
  | e :: rest =>
    let (a, c) := c.respond e
    let (decisions, c) := c.live rest
    ((e.decided? a).toList ++ decisions, c)

variable {c d : AccessCore}

/-! ### What an event does to the log -/

structure Unlogged (c d : AccessCore) : Prop where
  settings : d.settings = c.settings
  log : d.log = c.log

theorem Unlogged.refl (c : AccessCore) : Unlogged c c := ⟨rfl, rfl⟩

/-- An event concludes the one decision that it leads to, or leads to none. -/
inductive Responds (c : AccessCore) : Option (Request × Decision) → AccessCore → Prop
  | concludes {d : AccessCore} (q : Request) (o : Outcome) (hquiet : Unlogged c d) :
    Responds c (some (q, (d.conclude q o).1)) (d.conclude q o).2
  | quiet {d : AccessCore} (hquiet : Unlogged c d) : Responds c none d

theorem Unlogged.evaluateAt (h : Unlogged c d) (q : Request) (deadline : Option Time) (p : Pace) :
    Unlogged c (d.evaluateAt q deadline p).2 := by
  have hfresh : Unlogged c (d.evaluate q deadline p.finish).2 := by
    fun_cases evaluate d q deadline p.finish <;> exact ⟨h.settings, h.log⟩
  fun_cases AccessCore.evaluateAt d q deadline p with
  | case1 => exact h
  | case2 => exact hfresh

theorem unlogged_consultAt (c : AccessCore) (q : Request) (deadline : Option Time) (p : Pace) :
    Unlogged c (c.consultAt q deadline p).2 := by
  fun_cases consultAt c q deadline p with
  | case1 => exact .refl c
  | case2 => exact ⟨rfl, rfl⟩
  | case3 => exact ⟨rfl, rfl⟩
  | case4 _ _ decisions _ =>
    have hquiet : Unlogged c { c with decisions := decisions, misses := c.misses + 1 } := ⟨rfl, rfl⟩
    exact hquiet.evaluateAt q deadline p
  | case5 => exact (Unlogged.refl c).evaluateAt q deadline p

theorem responds_checkAt (c : AccessCore) (q : Request) (deadline : Option Time) (p : Pace) :
    Responds c (some (q, (c.checkAt q deadline p).1)) (c.checkAt q deadline p).2 := by
  have hquiet := unlogged_consultAt c q deadline p
  rw [checkAt]
  generalize c.consultAt q deadline p = r at hquiet ⊢
  fun_cases settle q r <;> exact .concludes q _ hquiet

theorem responds_checkBefore (c : AccessCore) (q : Request) (deadline : Option Time) (now : Time) :
    Responds c (some (q, (c.checkBefore q deadline now).1)) (c.checkBefore q deadline now).2 := by
  rw [← checkAt_idle]
  exact responds_checkAt c q deadline (.idle now)

theorem responds_tryCheck (c : AccessCore) (q : Request) (now : Time) :
    Responds c ((AccessAnswer.tried (c.tryCheck q now).1).decision?.map (q, ·))
      (c.tryCheck q now).2 := by
  have hspec := consult_spec c q none now
  have hquiet : Unlogged c (c.consult q none now).2 := ⟨hspec.stores.settings, hspec.log⟩
  clear hspec
  rw [tryCheck]
  generalize c.consult q none now = r at hquiet ⊢
  obtain ⟨_ | o, d⟩ := r
  · exact .quiet hquiet
  · exact .concludes q o hquiet

theorem responds_respond (c : AccessCore) (e : Event) :
    Responds c (e.decided? (c.respond e).1) (c.respond e).2 := by
  cases e with
  | heldUp q deadline p => exact responds_checkAt c q deadline p
  | call a now =>
    cases a with
    | check q => exact responds_checkBefore c q none now
    | checkBefore q deadline => exact responds_checkBefore c q (some deadline) now
    | tryCheck q => exact responds_tryCheck c q now
    -- a change of the stores takes out kept decisions, but leaves the log, also when it is refused
    | addPolicy p =>
      apply Responds.quiet
      rw [respond, answer, Prod.map_snd, id_eq]
      fun_cases addPolicy c p now <;> exact ⟨rfl, rfl⟩
    | removePolicy id =>
      apply Responds.quiet
      rw [respond, answer, Prod.map_snd, id_eq]
      fun_cases removePolicy c id <;> exact ⟨rfl, rfl⟩
    | addRole r =>
      apply Responds.quiet
      rw [respond, answer, Prod.map_snd, id_eq]
      fun_cases addRole c r now <;> exact ⟨rfl, rfl⟩
    | setActive id active =>
      apply Responds.quiet
      rw [respond, answer, Prod.map_snd, id_eq]
      fun_cases setActive c id active now <;> exact ⟨rfl, rfl⟩
    | apply b =>
      apply Responds.quiet
      rw [respond, answer, Prod.map_snd, id_eq]
      fun_cases apply c b now <;> exact ⟨rfl, rfl⟩
    | addPermission p => exact .quiet ⟨rfl, rfl⟩
    | clearDecisions => exact .quiet ⟨rfl, rfl⟩

/-! ### What a run does to the log -/

def record? (settings : AccessSettings) (p : Request × Decision) : Option AuditEntry :=
  if settings.auditEnabled then some (.ofDecision p.1 p.2) else none

theorem record?_of_audited {settings : AccessSettings} (haudit : settings.auditEnabled = true) :
    record? settings = fun p => some (.ofDecision p.1 p.2) := funext fun _ => if_pos haudit

theorem record?_of_silent {settings : AccessSettings} (haudit : settings.auditEnabled = false) :
    record? settings = fun _ => none :=
  funext fun _ => if_neg (ne_true_of_eq_false haudit)

/-- A row of decisions is what stands between two states of the log. -/
structure Logs (c : AccessCore) (decisions : List (Request × Decision)) (d : AccessCore) :
    Prop where
  settings : d.settings = c.settings
  attached : ∀ p ∈ decisions, p.2.audit = record? c.settings p
  /-- What has been forgotten of the past does not matter. -/
  log : ∀ past, c.log = past.rtake logLimit →
    d.log = (past ++ decisions.filterMap (record? c.settings)).rtake logLimit

namespace Logs

theorem of_unlogged (h : Unlogged c d) : Logs c [] d where
  settings := h.settings
  attached := by simp
  log past hpast := by rw [h.log, hpast, List.filterMap_nil, List.append_nil]

theorem trans {c₁ c₂ c₃ : AccessCore} {ds es : List (Request × Decision)} (h : Logs c₁ ds c₂)
    (h' : Logs c₂ es c₃) : Logs c₁ (ds ++ es) c₃ where
  settings := h'.settings.trans h.settings
  attached p hp := by
    rcases List.mem_append.mp hp with hp | hp
    · exact h.attached p hp
    · rw [← h.settings]
      exact h'.attached p hp
  log past hpast := by
    rw [List.filterMap_append, ← List.append_assoc, ← h.settings]
    apply h'.log
    rw [h.settings]
    exact h.log past hpast

end Logs

theorem logs_conclude (d : AccessCore) (q : Request) (o : Outcome) :
    Logs d [(q, (d.conclude q o).1)] (d.conclude q o).2 := by
  cases haudit : d.settings.auditEnabled with
  | false =>
    have hrecord := record?_of_silent haudit
    rw [conclude, if_neg (ne_true_of_eq_false haudit)]
    refine ⟨rfl, by simp [hrecord], fun past hpast => ?_⟩
    rw [hrecord, List.filterMap_none, List.append_nil, hpast]
  | true =>
    have hrecord := record?_of_audited haudit
    rw [conclude, if_pos haudit]
    refine ⟨rfl, by simp [hrecord, AuditEntry.ofDecision, entry], fun past hpast => ?_⟩
    rw [hrecord, List.filterMap_eq_map', List.map_singleton,
      rtake_concat_of_limit (by decide : 0 < logLimit), ← hpast]
    rfl

theorem Responds.logs {o : Option (Request × Decision)} (h : Responds c o d) :
    Logs c o.toList d := by
  cases h with
  | quiet hquiet => exact .of_unlogged hquiet
  | concludes q o hquiet => exact (Logs.of_unlogged hquiet).trans (logs_conclude _ q o)

theorem logs_live (c : AccessCore) (events : List Event) :
    Logs c (c.live events).1 (c.live events).2 := by
  induction events generalizing c with
  | nil => exact .of_unlogged (.refl c)
  | cons e rest ih => exact (responds_respond c e).logs.trans (ih _)

theorem Responds.unlogged (h : Responds c none d) : Unlogged c d := by
  cases h with
  | quiet hquiet => exact hquiet

theorem log_respond_of_undecided (c : AccessCore) {e : Event}
    (hnone : e.decided? (c.respond e).1 = none) : (c.respond e).2.log = c.log := by
  have hresponds := responds_respond c e
  rw [hnone] at hresponds
  exact hresponds.unlogged.log

/-- The log tells the tail of a history of decisions, or nothing at all. -/
structure TellsTail (settings : AccessSettings) (decisions : List (Request × Decision))
    (c : AccessCore) : Prop where
  recent : settings.auditEnabled = true → ∀ n, c.recent n =
    (decisions.map fun p => AuditEntry.ofDecision p.1 p.2).rtake
      (min n (min 10000 decisions.length))
  attached : settings.auditEnabled = true →
    ∀ p ∈ decisions, p.2.audit = some (.ofDecision p.1 p.2)
  silent : settings.auditEnabled = false →
    (∀ n, c.recent n = []) ∧ ∀ p ∈ decisions, p.2.audit = none
  /-- Only decisions are logged. -/
  untouched : ∀ e : Event, e.decided? (c.respond e).1 = none → (c.respond e).2.log = c.log

theorem tellsTail_live {settings : AccessSettings} {now : Time} {c : AccessCore}
    (hnew : AccessCore.new settings now = .ok c) (events : List Event) :
    TellsTail settings (c.live events).1 (c.live events).2 := by
  have hlogs := logs_live c events
  obtain ⟨hsettings, hempty⟩ : c.settings = settings ∧ c.log = [] := by
    obtain ⟨-, rfl⟩ := new_eq_ok_iff.mp hnew
    exact ⟨rfl, rfl⟩
  generalize c.live events = r at hlogs ⊢
  obtain ⟨decisions, c'⟩ := r
  have hlog : c'.log = (decisions.filterMap (record? settings)).rtake logLimit := by
    rw [← hsettings]
    exact hlogs.log [] (hempty.trans (List.rtake_nil _).symm)
  have hattached := hlogs.attached
  rw [hsettings] at hattached
  refine ⟨fun haudit n => ?_, fun haudit p hp => ?_, fun haudit => ⟨fun n => ?_, fun p hp => ?_⟩,
    fun e => log_respond_of_undecided c'⟩
  · change c'.log.rtake n = _
    rw [hlog, record?_of_audited haudit, List.filterMap_eq_map', rtake_rtake, List.length_map]
    rfl
  · rw [hattached p hp, record?_of_audited haudit]
  · change c'.log.rtake n = []
    rw [hlog, record?_of_silent haudit, List.filterMap_none, List.rtake_nil, List.rtake_nil]
  · rw [hattached p hp, record?_of_silent haudit]

/-- A malformed request, fresh decisions, a kept one, and one that is late. -/
theorem tellsTail_live_of_each_kind :
    let settings : AccessSettings :=
      { AccessSettings.standard with strict := true, hierarchical := false }
    let p : Policy :=
      ⟨"p1", "", "report*", [], ["user"], [], .empty, none, none, none, 5, 5⟩
    let q : Request := ⟨7, "ann", "reports", "write", ["user"], .empty⟩
    let events : List Event := [.call (.addPolicy p) 5, .call (.check { q with subject := " " }) 6,
      .call (.check q) 6, .call .clearDecisions 6, .call (.check q) 6, .call (.tryCheck q) 7,
      .heldUp q (some 8) ⟨7, 9, by decide, none⟩]
    let r := (initial settings 0).live events
    AccessCore.new settings 0 = .ok (initial settings 0) ∧ r.1.length = 5 ∧
      (r.2.recent 3).map (fun e => (e.reason, e.cacheHit)) =
        [(.allowedBy "p1", false), (.allowedBy "p1", true), (.timeout, false)] ∧
      TellsTail settings r.1 r.2 := by
  intro settings p q events r
  have hnew : AccessCore.new settings 0 = .ok (initial settings 0) :=
    new_eq_ok_iff.mpr ⟨rfl, rfl⟩
  have hcount : r.1.length = 5 := by decide +kernel
  have hrecent : (r.2.recent 3).map (fun e => (e.reason, e.cacheHit)) =
      [(.allowedBy "p1", false), (.allowedBy "p1", true), (.timeout, false)] := by
    decide +kernel
  exact ⟨hnew, hcount, hrecent, tellsTail_live hnew events⟩

end AccessCore

end TagAtlas
