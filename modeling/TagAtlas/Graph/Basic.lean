import TagAtlas.Failure
import TagAtlas.Graph.Cycles
import TagAtlas.Graph.Levels
import TagAtlas.Graph.Reachable
import TagAtlas.Survey.Basic

/-!
# Dependency graphs

The nodes of a graph are the modules of a survey and the names that their dependencies lead to
outside. Edges are told apart by their ends and their kind. Levels and cycles are those of the
last refresh.
-/

namespace TagAtlas

inductive NodeKind where
  | module
  | external
  deriving DecidableEq, Repr

namespace NodeKind

def name : NodeKind → String
  | .module => "module"
  | .external => "external"

def named : List (String × NodeKind) :=
  [NodeKind.module, .external].map fun k => (k.name, k)

end NodeKind

structure Node where
  id : String
  name : String
  kind : NodeKind
  tags : List String
  metadata : Dict String
  inDegree : Nat
  outDegree : Nat
  deriving DecidableEq

namespace Node

/-- A node without tags and edges, named by its id. -/
def new (id : String) (kind : NodeKind) : Node := ⟨id, id, kind, [], .empty, 0, 0⟩

def addTag (n : Node) (type : String) : Node :=
  if n.tags.contains type then n else { n with tags := n.tags ++ [type] }

def isExternal (n : Node) : Bool := n.kind = .external

end Node

structure Edge where
  source : String
  target : String
  kind : DependencyKind
  weight : Float
  metadata : Dict String

namespace Edge

def key (e : Edge) : String × String × DependencyKind := (e.source, e.target, e.kind)

/-- Whether an edge comes before another or in its place: by its ends, then by the name of its
kind. -/
def precedes (a b : Edge) : Bool :=
  if a.source ≠ b.source then a.source < b.source
  else if a.target ≠ b.target then a.target < b.target
  else a.kind.name ≤ b.kind.name

end Edge

/-- A graph of dependencies between modules. -/
structure DependencyGraph where
  nodes : Dict Node
  edges : List Edge
  cycles : List (List String)
  levels : Dict Nat

namespace DependencyGraph

def empty : DependencyGraph := ⟨.empty, [], [], .empty⟩

/-- Puts a node in, or replaces the one of its id; degrees that were counted are kept. -/
def addNode (g : DependencyGraph) (n : Node) : DependencyGraph :=
  let n := match g.nodes.find? n.id with
    | some old => { n with inDegree := old.inDegree, outDegree := old.outDegree }
    | none => n
  { g with nodes := g.nodes.insert n.id n }

def updateNode (g : DependencyGraph) (id : String) (f : Node → Node) : DependencyGraph :=
  match g.nodes.find? id with
  | some n => { g with nodes := g.nodes.insert id (f n) }
  | none => g

def hasEdge (g : DependencyGraph) (e : Edge) : Bool := g.edges.any (·.key = e.key)

/-- Adds an edge between nodes of the graph and counts it at both ends, unless one with the same
key is there. Tells whether it was added. -/
def addEdge (g : DependencyGraph) (e : Edge) : Except Failure (DependencyGraph × Bool) :=
  if !g.nodes.contains e.source then .error (.notFound ("graph node " ++ e.source))
  else if !g.nodes.contains e.target then .error (.notFound ("graph node " ++ e.target))
  else if g.hasEdge e then .ok (g, false)
  else
    let g := g.updateNode e.source fun n => { n with outDegree := n.outDegree + 1 }
    let g := g.updateNode e.target fun n => { n with inDegree := n.inDegree + 1 }
    .ok ({ g with edges := g.edges ++ [e] }, true)

/-- The ids that edges from an id lead to, each once, in increasing order. -/
def dependenciesOf (g : DependencyGraph) (id : String) : List String :=
  Dict.sortedSet ((g.edges.filter (·.source = id)).map Edge.target)

/-- The ids from which edges lead to an id, each once, in increasing order. -/
def dependentsOf (g : DependencyGraph) (id : String) : List String :=
  Dict.sortedSet ((g.edges.filter (·.target = id)).map Edge.source)

def adjacency (g : DependencyGraph) : Adjacency :=
  let declared : Adjacency := g.nodes.mapValues fun _ _ => []
  let full := g.edges.foldl (fun adj e => adj.update e.source [] (· ++ [e.target])) declared
  full.mapValues fun _ targets => Dict.sortedSet targets

/-- Levels and cycles of the present nodes and edges. -/
def refresh (g : DependencyGraph) : DependencyGraph :=
  let adj := g.adjacency
  { g with levels := adj.levels, cycles := adj.cycles }

def depth (g : DependencyGraph) : Nat := g.levels.values.foldl max 0

/-- All that an id depends on, directly or not. -/
def transitiveDependencies (g : DependencyGraph) (id : String) : List String :=
  g.adjacency.reachable id

def idsWhere (g : DependencyGraph) (test : Node → Bool) : List String :=
  (g.nodes.values.filter test).map Node.id

def roots (g : DependencyGraph) : List String := g.idsWhere fun n => n.inDegree = 0

def leaves (g : DependencyGraph) : List String := g.idsWhere fun n => n.outDegree = 0

def isolated (g : DependencyGraph) : List String :=
  g.idsWhere fun n => n.inDegree = 0 && n.outDegree = 0

/-- The edges by their ends and the names of their kinds. -/
def sortedEdges (g : DependencyGraph) : List Edge := g.edges.mergeSort Edge.precedes

def moduleNode (m : Module) : Node :=
  let n := { Node.new m.name .module with
    metadata := Dict.ofList [("package", m.packageName), ("files", Nat.repr m.files.length)] }
  m.tags.foldl (fun n t => n.addTag t.type.name) n

def ensureNode (g : DependencyGraph) (id : String) : DependencyGraph :=
  if g.nodes.contains id then g else g.addNode (Node.new id .external)

def dependencyEdge (d : Dependency) : Edge where
  source := d.source
  target := d.target
  kind := d.kind
  weight := 1.0
  metadata := match d.line with
    | some line => Dict.ofList [("line", Nat.repr line)]
    | none => .empty

def addDependency (g : DependencyGraph) (d : Dependency) : DependencyGraph :=
  let g := (g.ensureNode d.source).ensureNode d.target
  match g.addEdge (dependencyEdge d) with
  | .ok (g, _) => g
  | .error _ => g

/-- The graph of a survey: a node for each module, an edge for each dependency. -/
def ofSurvey (s : Survey) : DependencyGraph :=
  let g := s.modules.foldl (fun g m => g.addNode (moduleNode m)) empty
  (s.dependencies.foldl addDependency g).refresh

end DependencyGraph

end TagAtlas
