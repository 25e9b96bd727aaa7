import TagAtlas.Dict
import TagAtlas.Text.Blank
import TagAtlas.Text.Search
import TagAtlas.Time.Basic

/-!
# Policies, roles and requests

A policy allows actions on resources to those who have one of its roles, all of its permissions,
and meet its conditions.
-/

namespace TagAtlas

/-- Who may do what with which resources. -/
structure Policy where
  id : String
  moduleName : String
  resource : String
  /-- No actions, or a star among them, mean every action. -/
  actions : List String
  roles : List String
  permissions : List String
  conditions : Dict String
  securityLevel : Option String
  scope : Option String
  /-- File and line of the annotation that the policy comes from. -/
  source : Option String
  createdAt : Time
  updatedAt : Time
  deriving DecidableEq

namespace Policy

/-- Whether a pattern matches a resource: a star matches all, a pattern that ends in a star what
begins with the rest of it, any other pattern itself. -/
def patternMatches (pattern resource : String) : Bool :=
  if pattern = "*" then true
  else match Text.before? ['*'] pattern.toList with
    | some lead => lead.isPrefixOf resource.toList
    | none => pattern = resource

def coversResource (p : Policy) (resource : String) : Bool := patternMatches p.resource resource

def coversAction (p : Policy) (action : String) : Bool :=
  p.actions.isEmpty || p.actions.any fun a => a = "*" || a = action

inductive Fault where
  | blankId
  | blankResource (id : String)
  | unrestricted (id : String)
  deriving DecidableEq, Repr

def Fault.message : Fault → String
  | .blankId => "policy id cannot be empty"
  | .blankResource id => "policy " ++ id ++ " has an empty resource pattern"
  | .unrestricted id => "policy " ++ id ++ " needs at least one role or condition"

def fault? (p : Policy) : Option Fault :=
  if Text.trimmed p.id = "" then some .blankId
  else if Text.trimmed p.resource = "" then some (.blankResource p.id)
  else if p.roles.isEmpty && p.conditions.isEmpty then some (.unrestricted p.id)
  else none

end Policy

structure Role where
  id : String
  name : String
  level : Nat
  parents : List String
  permissions : List String
  /-- A role that is not active matches nothing. -/
  active : Bool
  createdAt : Time
  updatedAt : Time
  deriving DecidableEq

namespace Role

def new (id : String) (level : Nat) (now : Time) : Role := ⟨id, id, level, [], [], true, now, now⟩

/-- Whether the role grants a permission; a star grants all. -/
def grants (r : Role) (permission : String) : Bool :=
  r.permissions.any fun p => p = "*" || p = permission

def authenticatedId : String := "authenticated"

/-- The roles that are always there, parents first. -/
def builtin (now : Time) : List Role :=
  [{ Role.new "guest" 1 now with name := "Guest" },
    { Role.new authenticatedId 5 now with name := "Authenticated", parents := ["guest"] },
    { Role.new "user" 10 now with
      name := "User", parents := [authenticatedId], permissions := ["read", "write:own"] },
    { Role.new "admin" 100 now with
      name := "Administrator", parents := ["user"], permissions := ["*"] }]

/-- A role with the parents and permissions that another one of its id adds. -/
def absorb (stored incoming : Role) : Role :=
  let extend (have' new' : List String) : List String :=
    new'.foldl (fun all x => if all.contains x then all else all ++ [x]) have'
  { stored with
    parents := extend stored.parents incoming.parents
    permissions := extend stored.permissions incoming.permissions }

end Role

/-- A permission and the modules that mention it. -/
structure Permission where
  id : String
  description : Option String
  modules : List String
  deriving DecidableEq, Repr

/-- A permission that is registered twice: modules are joined, and the first description counts. -/
def Permission.absorb (stored incoming : Permission) : Permission :=
  { stored with
    modules := incoming.modules.foldl
      (fun all m => if all.contains m then all else all ++ [m]) stored.modules
    description := stored.description.or incoming.description }

/-- Policies, roles and permissions that are applied together. -/
structure Batch where
  policies : List Policy
  roles : List Role
  permissions : List Permission
  deriving DecidableEq

def Batch.isEmpty (b : Batch) : Bool :=
  b.policies.isEmpty && b.roles.isEmpty && b.permissions.isEmpty

/-- A wish to do something with a resource. -/
structure Request where
  id : Nat
  subject : String
  resource : String
  action : String
  roles : List String
  context : Dict String
  deriving DecidableEq

/-- Whether the fields that matter are not blank. -/
def Request.isWellFormed (q : Request) : Bool :=
  Text.trimmed q.subject ≠ "" && Text.trimmed q.resource ≠ "" && Text.trimmed q.action ≠ ""

end TagAtlas
