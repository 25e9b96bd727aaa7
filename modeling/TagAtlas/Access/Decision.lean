import TagAtlas.Access.Hierarchy
import TagAtlas.Config.Basic

/-!
# Decisions

A request is decided by the policies that match its resource and action. The first of them, by id,
that the request satisfies allows it.
-/

namespace TagAtlas

inductive Reason where
  | allowedBy (policy : String)
  | defaultAllow
  | notSatisfied
  | noPolicy
  | invalidRequest
  | timeout
  | failure
  deriving DecidableEq, Repr

namespace Reason

def allows : Reason → Bool
  | .allowedBy _ | .defaultAllow => true
  | _ => false

def text : Reason → String
  | .allowedBy policy => "allowed by policy " ++ policy
  | .defaultAllow => "no applicable security policies found (default allow)"
  | .notSatisfied => "user lacks required roles or conditions not met"
  | .noPolicy => "no applicable security policies found"
  | .invalidRequest => "invalid_request"
  | .timeout => "timeout"
  | .failure => "authorization_error"

end Reason

/-- What was decided about a request, and the ids of the policies that matched it. -/
structure Verdict where
  reason : Reason
  applied : List String
  deriving DecidableEq, Repr

abbrev Policies := Dict Policy

namespace Verdict

def storedRoles (roles : Roles) (ids : List String) : List Role := ids.filterMap roles.find?

/-- Whether a request with some effective roles satisfies a policy. -/
def satisfies (settings : AccessSettings) (roles : Roles) (effective : List String)
    (q : Request) (p : Policy) : Bool :=
  p.roles.any effective.contains &&
    (p.permissions.all fun permission => (storedRoles roles effective).any (·.grants permission)) &&
    (!settings.contextual || p.conditions.entries.all fun e => q.context.find? e.1 = some e.2)

def matching (policies : Policies) (q : Request) : List Policy :=
  policies.values.filter fun p => p.coversResource q.resource && p.coversAction q.action

def ofPolicies (settings : AccessSettings) (policies : Policies) (roles : Roles)
    (effective : List String) (q : Request) : Verdict :=
  let matched := matching policies q
  let reason := match matched.find? (satisfies settings roles effective q) with
    | some p => .allowedBy p.id
    | none =>
      if !matched.isEmpty then .notSatisfied
      else if settings.defaultDeny then .noPolicy
      else .defaultAllow
  ⟨reason, matched.map Policy.id⟩

def decide (settings : AccessSettings) (policies : Policies) (roles : Roles) (q : Request) :
    Except Failure Verdict :=
  (roles.effective settings.hierarchical q.roles).map fun effective =>
    ofPolicies settings policies roles effective q

end Verdict

end TagAtlas
