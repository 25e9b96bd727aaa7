import TagAtlas.Access.Decision
import TagAtlas.Cache.Stats
import TagAtlas.Cache.Store

/-!
# Access control

The state of access control: policies, roles, permissions, the decisions that are kept for a time,
and the log of decisions. A change to a policy takes out the kept decisions that it could change; a
change to a role takes out all.
-/

namespace TagAtlas

/-- What a decision depends on: the request without its id, its roles sorted and each once. -/
structure DecisionKey where
  subject : String
  resource : String
  action : String
  roles : List String
  context : Dict String
  deriving DecidableEq

def Request.key (q : Request) : DecisionKey :=
  ⟨q.subject, q.resource, q.action, Dict.sortedSet q.roles, q.context⟩

structure AuditEntry where
  requestId : Nat
  subject : String
  action : String
  resource : String
  reason : Reason
  cacheHit : Bool
  context : Dict String
  deriving DecidableEq

structure Decision where
  reason : Reason
  applied : List String
  cacheHit : Bool
  audit : Option AuditEntry
  deriving DecidableEq

structure AccessCore where
  settings : AccessSettings
  policies : Policies
  roles : Roles
  permissions : Dict Permission
  decisions : Store DecisionKey Verdict
  log : List AuditEntry
  hits : Nat
  misses : Nat
  deriving DecidableEq

namespace AccessCore

def logLimit : Nat := 10000

/-- The state with the roles that are always there, and no policies. -/
def new (settings : AccessSettings) (now : Time) : Except Failure AccessCore :=
  settings.validate.map fun _ => {
    settings := settings
    policies := .empty
    roles := Dict.ofList ((Role.builtin now).map fun r => (r.id, r))
    permissions := .empty
    decisions := Store.new settings.cacheEntries (some settings.cacheLifetime)
    log := []
    hits := 0
    misses := 0 }

def isPast (deadline : Option Time) (now : Time) : Bool := deadline.any (· ≤ now)

/-- A verdict and whether it was a kept one. -/
structure Outcome where
  verdict : Verdict
  cacheHit : Bool
  deriving DecidableEq

/-- Decides a request afresh, and keeps the verdict when the deadline has not passed. -/
def evaluate (c : AccessCore) (q : Request) (deadline : Option Time) (now : Time) :
    Except Failure Outcome × AccessCore :=
  match Verdict.decide c.settings c.policies c.roles q with
  | .error f => (.error f, c)
  | .ok verdict =>
    if isPast deadline now then (.error (.timeout "policy evaluation"), c)
    else if c.settings.cacheEnabled then
      (.ok ⟨verdict, false⟩, { c with decisions := c.decisions.insert q.key verdict now })
    else (.ok ⟨verdict, false⟩, c)

def consult (c : AccessCore) (q : Request) (deadline : Option Time) (now : Time) :
    Except Failure Outcome × AccessCore :=
  if c.settings.strict && !q.isWellFormed then (.ok ⟨⟨.invalidRequest, []⟩, false⟩, c)
  else if c.settings.cacheEnabled then
    match c.decisions.get? q.key now with
    | (some verdict, decisions) =>
      let c := { c with decisions := decisions }
      if isPast deadline now then (.error (.timeout "decision cache"), c)
      else (.ok ⟨verdict, true⟩, { c with hits := c.hits + 1 })
    | (none, decisions) =>
      { c with decisions := decisions, misses := c.misses + 1 }.evaluate q deadline now
  else c.evaluate q deadline now

def entry (q : Request) (o : Outcome) : AuditEntry :=
  ⟨q.id, q.subject, q.action, q.resource, o.verdict.reason, o.cacheHit, q.context⟩

/-- Answers a request, and logs the answer when that is wanted. A full log loses its oldest
entry. -/
def conclude (c : AccessCore) (q : Request) (o : Outcome) : Decision × AccessCore :=
  let answer (audit : Option AuditEntry) : Decision :=
    ⟨o.verdict.reason, o.verdict.applied, o.cacheHit, audit⟩
  if c.settings.auditEnabled then
    let e := entry q o
    let kept := if logLimit ≤ c.log.length then c.log.drop 1 else c.log
    (answer (some e), { c with log := kept ++ [e] })
  else (answer none, c)

def tryCheck (c : AccessCore) (q : Request) (now : Time) : Except Failure Decision × AccessCore :=
  match c.consult q none now with
  | (.ok o, c) =>
    let (d, c) := c.conclude q o
    (.ok d, c)
  | (.error f, c) => (.error f, c)

/-- Decides a request before a deadline. A failure denies it. -/
def checkBefore (c : AccessCore) (q : Request) (deadline : Option Time) (now : Time) :
    Decision × AccessCore :=
  match c.consult q deadline now with
  | (.ok o, c) => c.conclude q o
  | (.error (.timeout _), c) => c.conclude q ⟨⟨.timeout, []⟩, false⟩
  | (.error _, c) => c.conclude q ⟨⟨.failure, []⟩, false⟩

/-- Decides a request. A failure denies it. -/
def check (c : AccessCore) (q : Request) (now : Time) : Decision × AccessCore :=
  c.checkBefore q none now

def clearDecisions (c : AccessCore) : AccessCore := { c with decisions := c.decisions.clear }

/-- Takes out the kept decisions to which a policy was applied or could be. -/
def invalidate (c : AccessCore) (p : Policy) : AccessCore :=
  let touches (key : DecisionKey) (v : Verdict) : Bool :=
    v.applied.contains p.id || p.coversResource key.resource
  { c with decisions := (c.decisions.removeWhere touches).2 }

/-- Stores a policy. One that replaces another keeps the time of its creation. -/
def placePolicy (policies : Policies) (p : Policy) (now : Time) : Policies :=
  match policies.find? p.id with
  | some old => policies.insert p.id { p with createdAt := old.createdAt, updatedAt := now }
  | none => policies.insert p.id p

/-- Stores a policy. Tells whether its id is new. -/
def addPolicy (c : AccessCore) (p : Policy) (now : Time) : Except Failure Bool × AccessCore :=
  match p.fault? with
  | some fault => (.error (.invalidInput fault.message), c)
  | none =>
    let isNew := !c.policies.contains p.id
    (.ok isNew, { c with policies := placePolicy c.policies p now }.invalidate p)

def removePolicy (c : AccessCore) (id : String) : Except Failure Policy × AccessCore :=
  match c.policies.find? id with
  | none => (.error (.notFound ("policy " ++ id)), c)
  | some p => (.ok p, { c with policies := c.policies.erase id }.invalidate p)

def addRole (c : AccessCore) (r : Role) (now : Time) : Except Failure Unit × AccessCore :=
  match c.roles.add r now with
  | .error f => (.error f, c)
  | .ok roles => (.ok (), { c with roles := roles }.clearDecisions)

def setActive (c : AccessCore) (id : String) (active : Bool) (now : Time) :
    Except Failure Unit × AccessCore :=
  match c.roles.find? id with
  | none => (.error (.notFound ("role " ++ id)), c)
  | some r =>
    let roles := c.roles.insert id { r with active := active, updatedAt := now }
    (.ok (), { c with roles := roles }.clearDecisions)

def placePermission (permissions : Dict Permission) (p : Permission) : Dict Permission :=
  match permissions.find? p.id with
  | some stored => permissions.insert p.id (stored.absorb p)
  | none => permissions.insert p.id p

/-- Registers a permission. Tells whether its id is new. -/
def addPermission (c : AccessCore) (p : Permission) : Bool × AccessCore :=
  (!c.permissions.contains p.id, { c with permissions := placePermission c.permissions p })

/-- What is wrong with the first faulty policy, if one is. -/
def policyFault? (policies : List Policy) : Option Policy.Fault := policies.findSome? Policy.fault?

/-- Applies a batch as a whole, or not at all when something is wrong with a part of it. -/
def apply (c : AccessCore) (b : Batch) (now : Time) : Except Failure Unit × AccessCore :=
  match policyFault? b.policies with
  | some fault => (.error (.invalidInput fault.message), c)
  | none =>
    match c.roles.addAll now b.roles with
    | .error f => (.error f, c)
    | .ok roles =>
      let applied := { c with
        roles := roles
        policies := b.policies.foldl (fun ps p => placePolicy ps p now) c.policies
        permissions := b.permissions.foldl placePermission c.permissions }
      (.ok (), applied.clearDecisions)

/-- The most recent log entries, oldest first. -/
def recent (c : AccessCore) (limit : Nat) : List AuditEntry := c.log.drop (c.log.length - limit)

def stats (c : AccessCore) : CacheStats :=
  ⟨c.hits, c.misses, c.decisions.evictions, c.decisions.size, c.decisions.capacity⟩

end AccessCore

end TagAtlas
