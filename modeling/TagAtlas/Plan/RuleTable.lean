import TagAtlas.Graph.Adjacency
import TagAtlas.Json.Decode
import TagAtlas.Survey.Basic

/-!
# Rules about feature modules

Which modules a module needs, which exclude each other, and which go well with a module.
-/

namespace TagAtlas

/-- The rules by module name. -/
structure RuleTable where
  needs : Adjacency
  excludes : Dict (List String)
  optional : Dict (List String)
  deriving DecidableEq

namespace RuleTable

/-- The rules that hold unless others are given. -/
def standard : RuleTable where
  needs := Dict.ofList [
    ("auth", ["user"]),
    ("organization", ["user", "auth"]),
    ("contact", ["user", "organization"]),
    ("product", ["user", "organization"]),
    ("invoice", ["user", "organization", "product", "contact"]),
    ("payment", ["user", "invoice"]),
    ("inventory", ["user", "organization", "product"]),
    ("calendar", ["user", "organization", "contact"]),
    ("realtime", ["user", "auth"]),
    ("audit", ["user"]),
    ("notification", ["user"])]
  excludes := Dict.ofList [
    ("sqlite", ["mysql", "postgresql"]),
    ("mysql", ["postgresql"]),
    ("local_auth", ["oauthsso"])]
  optional := Dict.ofList [
    ("user", ["notification", "audit"]),
    ("organization", ["contact", "calendar"]),
    ("product", ["inventory", "pricing"]),
    ("invoice", ["payment", "verifactu"]),
    ("contact", ["calendar", "communication"])]

/-- Adds a need, unless it is there or of the module itself. -/
def addNeed (t : RuleTable) (module need : String) : RuleTable :=
  { t with needs := t.needs.update module [] fun needs =>
      if module = need || needs.contains need then needs else needs ++ [need] }

/-- The modules that a module needs. -/
def needsOf (t : RuleTable) (module : String) : List String := t.needs.successors module

/-- Whether one of two modules lists the other as excluded. -/
def areExclusive (t : RuleTable) (a b : String) : Bool :=
  let lists (x y : String) : Bool := ((t.excludes.find? x).getD []).contains y
  lists a b || lists b a

/-- The names that some rules mention. -/
def mentioned (d : Dict (List String)) : List String := d.entries.flatMap fun e => e.1 :: e.2

/-- The names that any rule mentions. -/
def knownNames (t : RuleTable) : List String :=
  Dict.sortedSet (mentioned t.needs ++ mentioned t.excludes ++ mentioned t.optional)

/-- Adds the dependencies that the modules of a survey declare. -/
def withSurvey (t : RuleTable) (s : Survey) : RuleTable :=
  s.modules.foldl (fun t m => m.dependencies.foldl (fun t d => t.addNeed m.name d) t) t

/-- Rules as a document. -/
def toJson (t : RuleTable) : Json :=
  .object [("deps", Json.ofDict .ofStrings t.needs),
    ("incompatibles", Json.ofDict .ofStrings t.excludes),
    ("optionals", Json.ofDict .ofStrings t.optional)]

/-- The rules that a document describes. -/
def ofJson? (v : Json) : Option RuleTable := do
  let r ← v.record? ["deps", "incompatibles", "optionals"]
  let read := Json.dict? (Json.list? Json.string?)
  let needs ← r.required "deps" read
  let excludes ← r.required "incompatibles" read
  let optional ← r.required "optionals" read
  pure ⟨needs, excludes, optional⟩

end RuleTable

end TagAtlas
