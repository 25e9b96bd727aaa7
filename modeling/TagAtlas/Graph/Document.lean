import TagAtlas.Graph.Basic
import TagAtlas.Json.Decode
import TagAtlas.Json.Printer
import TagAtlas.Json.Reader

/-!
# Graphs in documents

A document lists the nodes by id and the edges by their ends. When it is read, degrees, levels and
cycles are counted afresh from nodes and edges, whatever it says about them.
-/

namespace TagAtlas

namespace Node

def toJson (n : Node) : Json :=
  .object [("id", .string n.id), ("name", .string n.name), ("kind", .string n.kind.name),
    ("tags", .ofStrings n.tags), ("metadata", Json.ofDict .string n.metadata),
    ("in_degree", .ofNat n.inDegree), ("out_degree", .ofNat n.outDegree)]

def ofJson? (v : Json) : Option Node := do
  let r ← v.record? ["id", "name", "kind", "tags", "metadata", "in_degree", "out_degree"]
  let id ← r.required "id" Json.string?
  let name ← r.required "name" Json.string?
  let kind ← r.required "kind" (Json.choice? NodeKind.named)
  let tags ← r.required "tags" (Json.list? Json.string?)
  let metadata ← r.required "metadata" (Json.dict? Json.string?)
  let inDegree ← r.required "in_degree" Json.word64?
  let outDegree ← r.required "out_degree" Json.word64?
  pure ⟨id, name, kind, tags, metadata, inDegree, outDegree⟩

end Node

namespace Edge

def toJson (e : Edge) : Json :=
  .object [("from", .string e.source), ("to", .string e.target), ("kind", .string e.kind.name),
    ("weight", .ofFloat e.weight), ("metadata", Json.ofDict .string e.metadata)]

def ofJson? (v : Json) : Option Edge := do
  let r ← v.record? ["from", "to", "kind", "weight", "metadata"]
  let source ← r.required "from" Json.string?
  let target ← r.required "to" Json.string?
  let kind ← r.required "kind" (Json.choice? DependencyKind.named)
  let weight ← r.required "weight" Json.float?
  let metadata ← r.required "metadata" (Json.dict? Json.string?)
  pure ⟨source, target, kind, weight, metadata⟩

end Edge

namespace DependencyGraph

def cyclesJson (cycles : List (List String)) : Json := .array (cycles.map .ofStrings)

/-- The whole state of a graph, with its nodes by id and its edges in the order of their
arrival. -/
def toJson (g : DependencyGraph) : Json :=
  .object [("nodes", Json.ofDict Node.toJson g.nodes), ("edges", .array (g.edges.map Edge.toJson)),
    ("cycles", cyclesJson g.cycles), ("levels", Json.ofDict .ofNat g.levels)]

/-- A graph as a document that does not depend on the order in which it was built. -/
def toDocument (g : DependencyGraph) : Json :=
  .object [("nodes", .array (g.nodes.values.map Node.toJson)),
    ("edges", .array (g.sortedEdges.map Edge.toJson)), ("cycles", cyclesJson g.cycles),
    ("levels", Json.ofDict .ofNat g.levels)]

def toText (g : DependencyGraph) : String := g.toDocument.pretty

def addEdges (g : DependencyGraph) : List Edge → Except Failure DependencyGraph
  | [] => .ok g
  | e :: rest =>
    match g.addEdge e with
    | .ok (g, _) => g.addEdges rest
    | .error f => .error (.invalidInput ("graph document: " ++ f.message))

def build (nodes : List Node) (edges : List Edge) : Except Failure DependencyGraph :=
  let g := nodes.foldl (fun g n => g.addNode { n with inDegree := 0, outDegree := 0 }) empty
  (g.addEdges edges).map refresh

def parts? (v : Json) : Option (List Node × List Edge) := do
  let r ← v.record? ["nodes", "edges", "cycles", "levels"]
  let nodes ← r.required "nodes" (Json.list? Node.ofJson?)
  let edges ← r.required "edges" (Json.list? Edge.ofJson?)
  let _ ← r.defaulted "cycles" [] (Json.list? (Json.list? Json.string?))
  let _ ← r.defaulted "levels" .empty (Json.dict? Json.word64?)
  pure (nodes, edges)

def ofDocument (v : Json) : Except Failure DependencyGraph :=
  match parts? v with
  | some (nodes, edges) => build nodes edges
  | none => .error (.malformedDocument "not a graph")

def ofText (text : String) : Except Failure DependencyGraph :=
  match Json.parse? text with
  | some v => ofDocument v
  | none => .error (.malformedDocument "not a document")

end DependencyGraph

end TagAtlas
