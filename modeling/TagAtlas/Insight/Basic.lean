import TagAtlas.Advice
import TagAtlas.Decimal.Fixed
import TagAtlas.Insight.Metrics

/-!
# Insights into a project

The patterns of a survey, the numbers about it and its modules, and what they recommend.
-/

namespace TagAtlas

/-- What a survey and its graph tell about a project. -/
structure Insights where
  patterns : List Pattern
  moduleMetrics : List ModuleMetrics
  projectMetrics : ProjectMetrics
  advice : List Advice

namespace Insights

def none : Insights := ⟨[], [], .none, []⟩

/-- A module is poorly covered below this coverage. -/
def lowCoverage : Float := 0.5

/-- A module is coupled too much with more dependencies. -/
def couplingLimit : Nat := 5

/-- A chain of dependencies is too deep beyond this length. -/
def depthLimit : Nat := 5

def coverageAdvice (m : ModuleMetrics) : Advice where
  kind := "module_coverage"
  severity := .info
  message := "module " ++ m.name ++ " has " ++ Nat.repr m.taggedFileCount ++ " of " ++
    Nat.repr m.fileCount ++ " files annotated (" ++ Decimal.fixed 0 (m.coverage * 100.0) ++
    "% coverage)"
  suggestions := ["Add @kthulu:module tags to the untagged files",
    "Annotate exported handlers, services and repositories"]
  metadata := Dict.ofList [("module", m.name)]
  autoApply := false

def couplingAdvice (m : ModuleMetrics) : Advice where
  kind := "module_coupling"
  severity := .warning
  message := "module " ++ m.name ++ " declares " ++ Nat.repr m.dependencyCount ++
    " dependencies (limit " ++ Nat.repr couplingLimit ++ ")"
  suggestions := ["Split the module along its responsibilities",
    "Depend on interfaces provided by a shared module"]
  metadata := Dict.ofList [("module", m.name)]
  autoApply := false

def moduleAdvice (m : ModuleMetrics) : List Advice :=
  (if m.coverage < lowCoverage then [coverageAdvice m] else []) ++
    (if couplingLimit < m.dependencyCount then [couplingAdvice m] else [])

/-- Advice on layers that are not tagged while others are. -/
def layerAdvice (s : Survey) : List Advice :=
  let isPresent (type : TagType) : Bool := s.tags.any (·.type = type)
  let missing := (Pattern.layers.filter fun type => !isPresent type).map TagType.name
  let present := Pattern.layers.length - missing.length
  if present = 0 || missing.isEmpty then []
  else [{
    kind := "architecture_completeness"
    severity := .info
    message := Nat.repr present ++ " of " ++ Nat.repr Pattern.layers.length ++
      " architectural layers annotated; missing: " ++ ", ".intercalate missing
    suggestions := ["Tag the missing layers so pattern detection can see them"]
    metadata := Dict.ofList [("missing", ",".intercalate missing)]
    autoApply := false }]

def cycleAdvice (cycle : List String) : Advice where
  kind := "circular_dependency"
  severity := .warning
  message := "circular dependency across " ++ Nat.repr cycle.length ++ " modules: " ++
    " -> ".intercalate (cycle ++ cycle.take 1)
  suggestions := ["Extract the shared contract into a separate module",
    "Invert one of the dependencies through an interface"]
  metadata := Dict.ofList [("modules", ",".intercalate cycle)]
  autoApply := false

def depthAdvice (g : DependencyGraph) : List Advice :=
  if depthLimit < g.depth then [{
    kind := "dependency_depth"
    severity := .warning
    message := "dependency chain depth is " ++ Nat.repr g.depth ++ " (limit " ++
      Nat.repr depthLimit ++ ")"
    suggestions := ["Flatten long dependency chains"]
    metadata := .empty
    autoApply := false }]
  else []

/-- Advice on modules that nothing connects to the others. -/
def isolationAdvice (s : Survey) (g : DependencyGraph) : List Advice :=
  let alone (n : Node) : Bool := n.kind = .module && n.inDegree = 0 && n.outDegree = 0
  if 1 < s.modules.length then
    (g.nodes.values.filter alone).map fun n => {
      kind := "module_connectivity"
      severity := .warning
      message := "module " ++ n.id ++ " has no dependencies and no dependents among " ++
        Nat.repr s.modules.length ++ " modules"
      suggestions := ["Declare its dependencies with @kthulu:dependency tags",
        "Remove the module if it is unused"]
      metadata := Dict.ofList [("module", n.id)]
      autoApply := false }
  else []

def adviceOn (s : Survey) (g : DependencyGraph) (modules : List ModuleMetrics) : List Advice :=
  let all := modules.flatMap moduleAdvice ++ layerAdvice s ++ g.cycles.map cycleAdvice ++
    depthAdvice g ++ isolationAdvice s g
  all.mergeSort Advice.precedes

def ofSurvey (s : Survey) (g : DependencyGraph) : Insights :=
  let modules := s.modules.map s.moduleMetrics
  { patterns := s.patterns
    moduleMetrics := modules
    projectMetrics := s.projectMetrics g modules
    advice := adviceOn s g modules }

def toJson (i : Insights) : Json :=
  .object [("patterns", .array (i.patterns.map Pattern.toJson)),
    ("module_metrics", .array (i.moduleMetrics.map ModuleMetrics.toJson)),
    ("project_metrics", i.projectMetrics.toJson),
    ("recommendations", .array (i.advice.map Advice.toJson))]

end Insights

end TagAtlas
