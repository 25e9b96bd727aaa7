import TagAtlas.Graph.Basic

/-!
# Graphs as DOT text

One statement a line: the nodes by id, then the edges by their ends. Quotes and backslashes in ids
and names are escaped by a backslash.
-/

namespace TagAtlas

namespace Dot

def escapeChar (c : Char) : List Char :=
  if c = '\\' || c = '\x22' then ['\\', c] else [c]

def escape (s : String) : String := String.ofList (s.toList.flatMap escapeChar)

def nodeLine (n : Node) : String :=
  let style := match n.kind with
    | .module => ""
    | .external => ", style=dashed"
  "    \"" ++ escape n.id ++ "\" [label=\"" ++ escape n.name ++ "\"" ++ style ++ "];\n"

def edgeLine (e : Edge) : String :=
  "    \"" ++ escape e.source ++ "\" -> \"" ++ escape e.target ++ "\" [label=\"" ++ e.kind.name ++
    "\"];\n"

end Dot

def DependencyGraph.toDot (g : DependencyGraph) : String :=
  "digraph kthulu \x7b\n    rankdir=LR;\n    node [shape=box];\n" ++
    String.join (g.nodes.values.map Dot.nodeLine) ++
    String.join (g.sortedEdges.map Dot.edgeLine) ++ "\x7d\n"

end TagAtlas
