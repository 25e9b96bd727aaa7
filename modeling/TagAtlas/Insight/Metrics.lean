import TagAtlas.Graph.Basic
import TagAtlas.Insight.Pattern

/-!
# Metrics

Numbers about modules and projects. Scores lie between 0 and 1.
-/

namespace TagAtlas

namespace Score

def discount (dependencies : Nat) : Float :=
  if dependencies ≤ 5 then 1.0 else if dependencies ≤ 10 then 0.5 else 0.2

/-- Quality: 0.4 of coverage, 0.3 of the diversity of tag types up to five, 0.3 of the discount for
dependencies. -/
def quality (coverage : Float) (types dependencies : Nat) : Float :=
  let diversity := Float.ofNat (min types 5) / 5.0
  unitScore (0.4 * coverage + 0.3 * diversity + 0.3 * discount dependencies)

/-- Complexity: 0.3 each of modules and dependencies, 0.2 each of cycles and depth. -/
def complexity (modules dependencies cycles depth : Nat) : Float :=
  unitScore (0.3 * unitScore (Float.ofNat modules * 0.1)
    + 0.3 * unitScore (Float.ofNat dependencies * 0.05)
    + 0.2 * unitScore (Float.ofNat cycles * 0.2)
    + 0.2 * unitScore (Float.ofNat depth * 0.1))

/-- A part of a whole; 0 when the whole is empty. -/
def ratio (part whole : Nat) : Float :=
  if whole = 0 then 0.0 else Float.ofNat part / Float.ofNat whole

end Score

structure ModuleMetrics where
  name : String
  fileCount : Nat
  taggedFileCount : Nat
  tagCount : Nat
  dependencyCount : Nat
  lineCount : Nat
  coverage : Float
  quality : Float
  tagDistribution : Dict Nat

structure ProjectMetrics where
  moduleCount : Nat
  fileCount : Nat
  taggedFileCount : Nat
  tagCount : Nat
  dependencyCount : Nat
  cycleCount : Nat
  depth : Nat
  lineCount : Nat
  coverage : Float
  quality : Float
  complexity : Float
  tagDistribution : Dict Nat

/-- The numbers about a project of which nothing is known. -/
def ProjectMetrics.none : ProjectMetrics := ⟨0, 0, 0, 0, 0, 0, 0, 0, 0.0, 0.0, 0.0, .empty⟩

def tagDistribution (tags : List Tag) : Dict Nat :=
  tags.foldl (fun counts t => counts.update t.type.name 0 (· + 1)) .empty

def lineTotal (files : List FileSummary) : Nat := files.foldl (fun n f => n + f.lineCount) 0

/-- The files of a module: those it lists, and those of its package that name no module. -/
def Survey.members (s : Survey) (m : Module) : List FileSummary :=
  s.files.filter fun f =>
    m.files.contains f.path || (f.moduleName.isNone && f.packageName = m.packageName)

def Survey.moduleMetrics (s : Survey) (m : Module) : ModuleMetrics :=
  let members := s.members m
  let tagged := (members.filter FileSummary.hasTags).length
  let coverage := Score.ratio tagged members.length
  let distribution := tagDistribution m.tags
  { name := m.name
    fileCount := members.length
    taggedFileCount := tagged
    tagCount := m.tags.length
    dependencyCount := m.dependencies.length
    lineCount := lineTotal members
    coverage := unitScore coverage
    quality := Score.quality coverage distribution.size m.dependencies.length
    tagDistribution := distribution }

/-- The mean of some scores; 0 when there are none. -/
def meanScore (scores : List Float) : Float :=
  if scores.isEmpty then 0.0 else scores.foldl (· + ·) 0.0 / Float.ofNat scores.length

def Survey.projectMetrics (s : Survey) (g : DependencyGraph) (modules : List ModuleMetrics) :
    ProjectMetrics :=
  let tagged := (s.files.filter FileSummary.hasTags).length
  { moduleCount := s.modules.length
    fileCount := s.files.length
    taggedFileCount := tagged
    tagCount := s.tags.length
    dependencyCount := s.dependencies.length
    cycleCount := g.cycles.length
    depth := g.depth
    lineCount := lineTotal s.files
    coverage := unitScore (Score.ratio tagged s.files.length)
    quality := unitScore (meanScore (modules.map ModuleMetrics.quality))
    complexity := Score.complexity s.modules.length s.dependencies.length g.cycles.length g.depth
    tagDistribution := s.tagCounts }

def ModuleMetrics.toJson (m : ModuleMetrics) : Json :=
  .object [("name", .string m.name), ("file_count", .ofNat m.fileCount),
    ("tagged_file_count", .ofNat m.taggedFileCount), ("tag_count", .ofNat m.tagCount),
    ("dependency_count", .ofNat m.dependencyCount), ("line_count", .ofNat m.lineCount),
    ("coverage", .ofFloat m.coverage), ("quality", .ofFloat m.quality),
    ("tag_distribution", Json.ofDict .ofNat m.tagDistribution)]

def ProjectMetrics.toJson (p : ProjectMetrics) : Json :=
  .object [("module_count", .ofNat p.moduleCount), ("file_count", .ofNat p.fileCount),
    ("tagged_file_count", .ofNat p.taggedFileCount), ("tag_count", .ofNat p.tagCount),
    ("dependency_count", .ofNat p.dependencyCount), ("cycle_count", .ofNat p.cycleCount),
    ("max_depth", .ofNat p.depth), ("line_count", .ofNat p.lineCount),
    ("coverage", .ofFloat p.coverage), ("quality", .ofFloat p.quality),
    ("complexity", .ofFloat p.complexity),
    ("tag_distribution", Json.ofDict .ofNat p.tagDistribution)]

end TagAtlas
