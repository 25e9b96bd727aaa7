import TagAtlas.Access.Model
import TagAtlas.Failure
import TagAtlas.Graph.Reachable

/-!
# Role hierarchy

Roles inherit from their parents. Those that a request declares bring along all that an unbroken
chain of active roles leads to. A role that is not stored counts as active and has no parents.
-/

namespace TagAtlas

abbrev Roles := Dict Role

namespace Roles

def parentLists (roles : Roles) : Adjacency := roles.mapValues fun _ r => r.parents

/-- The parents of a role; none when it is not stored. -/
def parentsOf (roles : Roles) (id : String) : List String := roles.parentLists.successors id

def isActive (roles : Roles) (id : String) : Bool := ((roles.find? id).map Role.active).getD true

/-- A role on the path, and the parents it still has to look at. -/
structure Climber where
  id : String
  pending : List String
  deriving DecidableEq, Repr

def effort (path : List Climber) : Nat := path.foldr (fun c n => c.pending.length + 1 + n) 0

/-- The failure of a walk that comes back to a role on its path. -/
def cycleFailure (id : String) : Failure :=
  .internal ("role hierarchy has a cycle through " ++ id)

/-- Walks up from the roles of a path, last one first. `fresh` lists the roles that the walk has not
entered, `done` those it has left. A role that is neither lies on the path. -/
def climb (roles : Roles) (fresh done : List String) : List Climber → Except Failure (List String)
  | [] => .ok done
  | ⟨v, []⟩ :: rest => climb roles fresh (v :: done) rest
  | ⟨v, p :: pending⟩ :: rest =>
    if p ∈ fresh then
      if roles.isActive p then
        climb roles (fresh.erase p) done (⟨p, roles.parentsOf p⟩ :: ⟨v, pending⟩ :: rest)
      else climb roles fresh done (⟨v, pending⟩ :: rest)
    else if p ∈ done then climb roles fresh done (⟨v, pending⟩ :: rest)
    else .error (cycleFailure p)
  termination_by path => (fresh.length, effort path)
  decreasing_by
    · exact Prod.Lex.right _ (by simp [effort])
    · refine Prod.Lex.left _ _ ?_
      have hw : p ∈ fresh := by assumption
      have hpos := List.length_pos_of_mem hw
      have he := List.length_erase_of_mem hw
      omega
    · exact Prod.Lex.right _ (by simp [effort])
    · exact Prod.Lex.right _ (by simp [effort])

def enter (roles : Roles) (done : List String) (id : String) : Except Failure (List String) :=
  if id ∈ done || !roles.isActive id then .ok done
  else
    let fresh := (roles.parentLists.nodes.filter fun r => !done.contains r).erase id
    climb roles fresh done [⟨id, roles.parentsOf id⟩]

/-- The roles that some declared roles stand for. -/
def effective (roles : Roles) (hierarchical : Bool) (declared : List String) :
    Except Failure (List String) :=
  if hierarchical then (declared.foldlM (enter roles) []).map Dict.sortedSet
  else .ok (Dict.sortedSet (declared.filter roles.isActive))

/-- Whether a role is among some roles or what they inherit from. -/
def leadsTo (roles : Roles) (starts : List String) (target : String) : Bool :=
  let g := roles.parentLists
  (Reachable.walk g (Dict.sortedSet (g.nodes ++ starts)) starts).contains target

inductive Fault where
  | blankId
  | ownParent (id : String)
  | unknownParent (id parent : String)
  | cycle (id : String)
  deriving DecidableEq, Repr

def Fault.message : Fault → String
  | .blankId => "role id cannot be empty"
  | .ownParent id => "role " ++ id ++ " cannot inherit from itself"
  | .unknownParent id parent => "role " ++ id ++ " names unknown parent " ++ parent
  | .cycle id => "role " ++ id ++ " would create an inheritance cycle"

def parentFault? (roles : Roles) (r : Role) (parent : String) : Option Fault :=
  if parent = r.id then some (.ownParent r.id)
  else if !roles.contains parent then some (.unknownParent r.id parent)
  else none

/-- What is wrong with a role that is to be stored, if anything is. -/
def fault? (roles : Roles) (r : Role) : Option Fault :=
  if Text.trimmed r.id = "" then some .blankId
  else match r.parents.findSome? (parentFault? roles r) with
    | some fault => some fault
    | none => if roles.leadsTo r.parents r.id then some (.cycle r.id) else none

/-- Stores a role. One that replaces another keeps its state and the time of its creation. -/
def place (roles : Roles) (r : Role) (now : Time) : Roles :=
  match roles.find? r.id with
  | some old => roles.insert r.id
      { r with active := old.active, createdAt := old.createdAt, updatedAt := now }
  | none => roles.insert r.id r

/-- Stores a role, unless something is wrong with it. -/
def add (roles : Roles) (r : Role) (now : Time) : Except Failure Roles :=
  match roles.fault? r with
  | some fault => .error (.invalidInput fault.message)
  | none => .ok (roles.place r now)

/-- Stores roles one after another. What a role adds to a stored one of its id is joined to it. -/
def addAll (roles : Roles) (now : Time) : List Role → Except Failure Roles
  | [] => .ok roles
  | r :: rest =>
    let r := match roles.find? r.id with
      | some stored => stored.absorb r
      | none => r
    match roles.add r now with
    | .ok roles => roles.addAll now rest
    | .error f => .error f

end Roles

end TagAtlas
