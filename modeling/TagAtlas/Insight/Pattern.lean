import TagAtlas.Json.Decode
import TagAtlas.Survey.Basic

/-!
# Patterns in a survey

Each detector looks for one way of building a program and gives at most one pattern, with a
confidence between 0 and 1 that grows with what supports it.
-/

namespace TagAtlas

inductive PatternKind where
  | architectural
  | domain
  | infrastructural
  deriving DecidableEq, Repr

def PatternKind.name : PatternKind → String
  | .architectural => "architectural"
  | .domain => "domain"
  | .infrastructural => "infrastructural"

/-- A score between 0 and 1; what is no number scores 0. -/
def unitScore (x : Float) : Float :=
  if x.isNaN then 0.0 else if x < 0.0 then 0.0 else if 1.0 < x then 1.0 else x

/-- A way of building a program that a survey shows. -/
structure Pattern where
  name : String
  kind : PatternKind
  occurrences : Nat
  files : List String
  confidence : Float
  metadata : Dict String

namespace Pattern

def toJson (p : Pattern) : Json :=
  .object [("name", .string p.name), ("kind", .string p.kind.name),
    ("occurrences", .ofNat p.occurrences), ("files", .ofStrings p.files),
    ("confidence", .ofFloat p.confidence), ("metadata", Json.ofDict .string p.metadata)]

def filesOf (tags : List Tag) : List String := Dict.sortedSet (tags.filterMap Tag.file)

def layers : List TagType := [.handler, .service, .repository, .domain]

def tagsOf (s : Survey) (type : TagType) : List Tag := s.tags.filter (·.type = type)

/-- How many declarations have a word in their names. -/
def namedSymbols (s : Survey) (word : String) : Nat :=
  ((s.files.flatMap FileSummary.symbols).filter fun d => Text.hasPart (Text.lower d.name) word).length

/-- A layer that tags of its own type show, and names of declarations confirm. -/
def layer? (s : Survey) (type : TagType) : Option Pattern :=
  let tags := tagsOf s type
  if tags.isEmpty then none
  else
    let named := namedSymbols s type.name
    let base : Float := 0.4 + 0.1 * Float.ofNat (min tags.length 4)
    let confidence := if 0 < named then base + 0.2 else base
    some ⟨type.name, .architectural, tags.length, filesOf tags, unitScore confidence,
      Dict.ofList [("named_symbols", Nat.repr named)]⟩

/-- A program built around its domain; aggregates confirm it. -/
def domainDriven? (s : Survey) : Option Pattern :=
  let tags := tagsOf s .domain
  if tags.isEmpty then none
  else
    let aggregates := (tags.filter fun t => t.hasFlag "aggregate").length
    some ⟨"domain_driven", .domain, tags.length, filesOf tags,
      if 0 < aggregates then 0.9 else 0.6, Dict.ofList [("aggregates", Nat.repr aggregates)]⟩

/-- Fewest modules among which providing something shows injection. -/
def injectionModules : Nat := 2

/-- A program whose modules provide things to each other. -/
def injection? (s : Survey) : Option Pattern :=
  let tags := tagsOf s .provides
  if tags.isEmpty || s.modules.length < injectionModules then none
  else some ⟨"dependency_injection", .infrastructural, tags.length, filesOf tags,
    unitScore (0.5 + 0.1 * Float.ofNat tags.length), .empty⟩

def layered? (s : Survey) : Option Pattern :=
  if layers.all fun type => s.tags.any (·.type = type) then
    let tags := s.tags.filter fun t => layers.contains t.type
    some ⟨"layered", .architectural, tags.length, filesOf tags, 0.9, .empty⟩
  else none

/-- Whether a module has tags of a layer other than the domain. -/
def isServing (m : Module) : Bool :=
  m.tags.any fun t => t.type = .handler || t.type = .service || t.type = .repository

def modular? (s : Survey) : Option Pattern :=
  let modules := s.modules.filter isServing
  if modules.length < 2 then none
  else some ⟨"modular_decomposition", .architectural, modules.length,
    Dict.sortedSet (modules.flatMap Module.files),
    unitScore (0.5 + 0.1 * Float.ofNat modules.length),
    Dict.ofList [("modules", ",".intercalate (modules.map Module.name))]⟩

end Pattern

def Survey.patterns (s : Survey) : List Pattern :=
  let found := [Pattern.layer? s .repository, Pattern.layer? s .service, Pattern.layer? s .handler,
    Pattern.domainDriven? s, Pattern.injection? s, Pattern.layered? s, Pattern.modular? s]
  (found.filterMap id).mergeSort fun a b => a.name ≤ b.name

end TagAtlas
