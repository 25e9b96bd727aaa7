import TagAtlas.Advice
import TagAtlas.Failure
import TagAtlas.Plan.Order
import TagAtlas.Plan.RuleTable
import TagAtlas.Text.Blank

/-!
# Install plans

A plan says which modules a request needs, in which order they are installed, which of them exclude
each other, and what else may be of use.
-/

namespace TagAtlas

/-- Two modules that exclude each other. -/
structure Conflict where
  first : String
  second : String
  deriving DecidableEq, Repr

namespace Conflict

def kindName : String := "incompatible"

def message (c : Conflict) : String := c.first ++ " and " ++ c.second ++ " cannot be installed together"

def suggestions (c : Conflict) : List String :=
  ["Remove " ++ c.first ++ " from the request", "Remove " ++ c.second ++ " from the request"]

def toJson (c : Conflict) : Json :=
  .object [("kind", .string kindName), ("modules", .ofStrings [c.first, c.second]),
    ("message", .string c.message), ("suggestions", .ofStrings c.suggestions)]

end Conflict

/-- The answer to a request for modules. -/
structure Plan where
  requested : List String
  required : List String
  order : List String
  optional : List String
  conflicts : List Conflict
  warnings : List String
  advice : List Advice
  deriving DecidableEq

namespace Plan

def position? (p : Plan) (name : String) : Option Nat := p.order.idxOf? name

def toJson (p : Plan) : Json :=
  .object [("requested", .ofStrings p.requested), ("required_modules", .ofStrings p.required),
    ("install_order", .ofStrings p.order), ("optional_modules", .ofStrings p.optional),
    ("conflicts", .array (p.conflicts.map Conflict.toJson)), ("warnings", .ofStrings p.warnings),
    ("recommendations", .array (p.advice.map Advice.toJson))]

/-- The names of a request without blanks around them, each once. -/
def requestedNames (names : List String) : List String :=
  ((names.map Text.trimmed).filter (· ≠ "")).eraseDups

def conflictsOf (rules : RuleTable) : List String → List Conflict
  | [] => []
  | a :: rest =>
    (rest.filter fun b => rules.areExclusive a b).map (Conflict.mk a) ++ conflictsOf rules rest

/-- What goes well with some modules, other than they themselves. -/
def optionalOf (rules : RuleTable) (required : List String) : List String :=
  Dict.sortedSet <| (required.flatMap fun m => (rules.optional.find? m).getD []).filter fun o =>
    !required.contains o

def coreModules : List String := ["auth", "user"]

def unknownWarning (name : String) : String :=
  "unknown module " ++ name ++ " has no rules; treated as a leaf"

/-- Warnings about unknown names, and about the lack of a core module. -/
def warningsOf (rules : RuleTable) (requested required : List String) : List String :=
  let known := rules.knownNames
  let unknown := (requested.filter fun n => !known.contains n).map unknownWarning
  let core := if required.isEmpty || required.any coreModules.contains then []
    else ["no core module (" ++ ", ".intercalate coreModules ++
      ") in the plan; most features expect one"]
  unknown ++ core

def financial : List String := ["invoice", "payment", "verifactu"]

def interactive : List String := ["calendar", "contact", "notification"]

def observabilityLimit : Nat := 3

def adding (module message suggestion : String) (autoApply : Bool) (kind : String) : Advice where
  kind := kind
  severity := .info
  message := message
  suggestions := [suggestion]
  metadata := Dict.ofList [("module", module)]
  autoApply := autoApply

/-- Advice on modules that would help some modules, by their names. -/
def adviceOn (required : List String) : List Advice :=
  let money := financial.filter required.contains
  let people := interactive.filter required.contains
  (if !money.isEmpty && !required.contains "audit" then
    [adding "audit" ("financial modules (" ++ ", ".intercalate money ++
      ") benefit from audit logging") "Add the audit module to the request" true "audit_logging"]
  else []) ++
  (if observabilityLimit < required.length && !required.contains "observability" then
    [adding "observability" (Nat.repr required.length ++
      " modules benefit from observability (metrics, tracing)")
      "Enable the observability module" false "observability"]
  else []) ++
  (if !people.isEmpty && !required.contains "realtime" then
    [adding "realtime" ("interactive modules (" ++ ", ".intercalate people ++
      ") benefit from realtime updates") "Add the realtime module to the request" false "realtime"]
  else [])

/-- The order in which some modules can be installed; the modules for which there is none. -/
def orderOf (rules : RuleTable) (required : List String) : Except Failure (List String) :=
  let (layers, stuck) :=
    InstallOrder.layers rules.needs required (InstallOrder.counters rules.needs required)
  if stuck.isEmpty then .ok layers.flatten else .error (.circularDependency stuck.keys)

def resolve (rules : RuleTable) (names : List String) : Except Failure Plan :=
  let requested := requestedNames names
  let required := InstallOrder.closure rules.needs requested
  (orderOf rules required).map fun order => {
    requested := requested
    required := required
    order := order
    optional := optionalOf rules required
    conflicts := conflictsOf rules required
    warnings := warningsOf rules requested required
    advice := adviceOn required }

end Plan

end TagAtlas
