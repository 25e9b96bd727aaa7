import TagAtlas.Graph.Dot
import TagAtlas.Proofs.GraphReplay

/-!
# What the DOT text of a graph tells

Between quotes, each character is written so that it cannot be taken for the beginning of another
one or for the closing quote. So a statement ends where it says, whatever its ids and names hold,
and no statement begins as the end of the text does. The text of a graph can be cut into its
statements in one way only, and tells which nodes and edges are drawn.
-/

namespace TagAtlas

namespace Dot

variable {c d : Char} {l m x y : List Char}

/-! ### Texts between quotes -/

/-- Escaping doubles the backslashes and then puts one before each quote. -/
theorem escape_eq_replaceChar (s : String) : escape s =
    String.ofList (Text.replaceChar (Text.replaceChar s.toList '\\' ['\\', '\\'])
      '\x22' ['\\', '\x22']) := by
  rw [escape, Text.replaceChar, Text.replaceChar, List.flatMap_assoc]
  congr 2
  funext c
  by_cases hslash : c = '\\'
  · subst hslash
    rfl
  · by_cases hquote : c = '\x22' <;> simp [escapeChar, hslash, hquote]

theorem escapeChar_append_inj : escapeChar c ++ x = escapeChar d ++ y ↔ c = d ∧ x = y := by
  unfold escapeChar
  split
  next hc => split <;> grind
  next hc => split <;> grind

theorem escapeChar_append_ne_quote : escapeChar c ++ x ≠ '\x22' :: y := by
  unfold escapeChar
  split <;> grind

theorem escapedChars_append_inj :
    l.flatMap escapeChar ++ '\x22' :: x = m.flatMap escapeChar ++ '\x22' :: y ↔ l = m ∧ x = y := by
  induction l generalizing m with
  | nil =>
    cases m with
    | nil => simp
    | cons d m => simpa using escapeChar_append_ne_quote.symm
  | cons c l ih =>
    cases m with
    | nil => simpa using escapeChar_append_ne_quote
    | cons d m => simp [escapeChar_append_inj, ih, and_assoc]

/-- A text between quotes ends where it says: no quote of its own is taken for the closing one. -/
theorem escape_append_inj {s t : String} :
    (escape s).toList ++ '\x22' :: x = (escape t).toList ++ '\x22' :: y ↔ s = t ∧ x = y := by
  simp only [escape, String.toList_ofList, escapedChars_append_inj, String.toList_inj]

end Dot

def Node.drawn (n : Node) : String × String × NodeKind := (n.id, n.name, n.kind)

namespace Dot

/-! ### Statements -/

inductive Statement where
  | node (drawn : String × String × NodeKind)
  | edge (key : String × String × DependencyKind)
  deriving DecidableEq

namespace Statement

def chars : Statement → List Char
  | .node (id, name, kind) => (nodeLine { Node.new id kind with name := name }).toList
  | .edge (source, target, kind) => (edgeLine ⟨source, target, kind, 1.0, .empty⟩).toList

@[simp] theorem chars_node (n : Node) : (node n.drawn).chars = (nodeLine n).toList := by
  simp only [Node.drawn, chars, nodeLine, Node.new]

@[simp] theorem chars_edge (e : Edge) : (edge e.key).chars = (edgeLine e).toList := by
  simp only [Edge.key, chars, edgeLine]

variable {x y : List Char} {a b : Statement} {as bs : List Statement}

/-- What follows a statement does not belong to it. -/
theorem chars_append_inj : a.chars ++ x = b.chars ++ y ↔ a = b ∧ x = y := by
  rcases a with ⟨id, name, kind⟩ | ⟨source, target, kind⟩ <;>
    rcases b with ⟨id', name', kind'⟩ | ⟨source', target', kind'⟩
  case node.node =>
    cases kind <;> cases kind' <;> simp [chars, nodeLine, escape_append_inj, Node.new, and_assoc]
  case edge.edge =>
    cases kind <;> cases kind' <;>
      simp [chars, edgeLine, escape_append_inj, DependencyKind.name, and_assoc]
  all_goals simp [chars, nodeLine, edgeLine, escape_append_inj]

/-- A statement is indented, the end of the text is not. -/
theorem chars_append_ne_brace : a.chars ++ x ≠ '\x7d' :: y := by
  cases a <;> simp [chars, nodeLine, edgeLine]

theorem flatMap_chars_inj :
    as.flatMap chars ++ ['\x7d', '\n'] = bs.flatMap chars ++ ['\x7d', '\n'] ↔ as = bs := by
  induction as generalizing bs with
  | nil =>
    cases bs with
    | nil => simp
    | cons b bs => simpa using chars_append_ne_brace.symm
  | cons a as ih =>
    cases bs with
    | nil => simpa using chars_append_ne_brace
    | cons b bs => simp [chars_append_inj, ih]

end Statement

end Dot

namespace DependencyGraph

open Dot

variable {g d : DependencyGraph} {x : String × String × NodeKind} {id : String}

/-- The statements of a DOT text in their order. -/
def statements (g : DependencyGraph) : List Statement :=
  (g.nodes.values.map Node.drawn).map .node ++ (g.sortedEdges.map Edge.key).map .edge

theorem toList_toDot (g : DependencyGraph) : g.toDot.toList =
    "digraph kthulu \x7b\n    rankdir=LR;\n    node [shape=box];\n".toList ++
      (g.statements.flatMap Statement.chars ++ ['\x7d', '\n']) := by
  have hend : "\x7d\n".toList = ['\x7d', '\n'] := by simp
  unfold toDot statements
  simp only [String.toList_append, String.toList_join, hend, List.flatMap_append, List.flatMap_map,
    Statement.chars_node, Statement.chars_edge, List.append_assoc]

/-- A text can be cut into statements in one way only. -/
theorem toDot_inj : g.toDot = d.toDot ↔ g.statements = d.statements := by
  rw [← String.toList_inj, toList_toDot, toList_toDot, List.append_right_inj,
    Statement.flatMap_chars_inj]

theorem node_mem_statements : .node x ∈ g.statements ↔ x ∈ g.nodes.values.map Node.drawn := by
  simp [statements]

theorem edge_mem_statements {key : String × String × DependencyKind} :
    .edge key ∈ g.statements ↔ key ∈ g.edges.map Edge.key := by
  have hsorted : key ∈ g.sortedEdges.map Edge.key ↔ key ∈ g.edges.map Edge.key :=
    (g.sortedEdges_perm.map Edge.key).mem_iff
  rw [← hsorted]
  simp [statements]

/-! ### The order of the statements -/

/-- Every node stands under its own id, and no two edges have one key. -/
structure Keyed (g : DependencyGraph) : Prop where
  ownId : ∀ id n, g.nodes.find? id = some n → n.id = id
  keys : (g.edges.map Edge.key).Nodup

theorem Counted.keyed (h : Counted g) : Keyed g := ⟨h.ownId, h.keys⟩

namespace Keyed

theorem find?_drawn (h : Keyed g) : (g.nodes.find? id).map Node.drawn = some x ↔
    x ∈ g.nodes.values.map Node.drawn ∧ x.1 = id := by
  constructor
  · intro hfind
    obtain ⟨n, hn, rfl⟩ := Option.map_eq_some_iff.mp hfind
    exact ⟨List.mem_map_of_mem (Dict.mem_values_iff.mpr ⟨id, hn⟩), h.ownId id n hn⟩
  · rintro ⟨hx, rfl⟩
    obtain ⟨n, hn, rfl⟩ := List.mem_map.mp hx
    obtain ⟨id, hfind⟩ := Dict.mem_values_iff.mp hn
    obtain rfl : n.id = id := h.ownId id n hfind
    exact Option.map_eq_some_iff.mpr ⟨n, hfind, rfl⟩

/-- The nodes come in the order of their ids. -/
theorem drawn_eq (hg : Keyed g) (hd : Keyed d)
    (h : ∀ x, x ∈ g.nodes.values.map Node.drawn ↔ x ∈ d.nodes.values.map Node.drawn) :
    g.nodes.values.map Node.drawn = d.nodes.values.map Node.drawn := by
  have hnodes : (g.nodes.mapValues fun _ n => n.drawn) = d.nodes.mapValues fun _ n => n.drawn := by
    refine Dict.ext_find? fun id => Option.ext fun x => ?_
    rw [Dict.find?_mapValues, Dict.find?_mapValues, hg.find?_drawn, hd.find?_drawn, h x]
  rw [← Dict.values_mapValues, ← Dict.values_mapValues, hnodes]

/-- The edges come in the order of their ends and of the names of their kinds. -/
theorem keys_eq (hg : Keyed g) (hd : Keyed d)
    (h : ∀ key, key ∈ g.edges.map Edge.key ↔ key ∈ d.edges.map Edge.key) :
    g.sortedEdges.map Edge.key = d.sortedEdges.map Edge.key := by
  have hperm : (g.edges.map Edge.key).Perm (d.edges.map Edge.key) :=
    (List.perm_ext_iff_of_nodup hg.keys hd.keys).mpr h
  have hplaced := hperm.map fun key => (Edge.place key, key)
  rw [List.map_map, List.map_map] at hplaced
  exact map_mergeSort_eq Edge.precedes_iff (fun _ _ _ _ hsame => Edge.place_injective hsame) hplaced

end Keyed

/-- Two graphs have the same DOT text just when they have the same nodes, by id, name and kind, and
the same edges, by their ends and kind. -/
theorem toDot_eq_toDot_iff (hg : Keyed g) (hd : Keyed d) : g.toDot = d.toDot ↔
    (∀ x, x ∈ g.nodes.values.map Node.drawn ↔ x ∈ d.nodes.values.map Node.drawn) ∧
      ∀ key, key ∈ g.edges.map Edge.key ↔ key ∈ d.edges.map Edge.key := by
  rw [toDot_inj]
  constructor
  · intro hsame
    refine ⟨fun x => ?_, fun key => ?_⟩
    · rw [← node_mem_statements, hsame, node_mem_statements]
    · rw [← edge_mem_statements, hsame, edge_mem_statements]
  · rintro ⟨hnodes, hedges⟩
    rw [statements, statements, hg.drawn_eq hd hnodes, hg.keys_eq hd hedges]

/-- A name that spells out the end of its statement and another statement is not taken for two
nodes. Weights and the order in which edges were added do not show. -/
theorem toDot_eq_toDot_iff_quoted_name :
    let named (id name : String) : Node := { Node.new id .module with name := name }
    let one := empty.addNode (named "a" "a\"];\n    \"b\" [label=\"b")
    let two := (empty.addNode (.new "a" .module)).addNode (.new "b" .module)
    let edge (kind : DependencyKind) (weight : Float) : Edge := ⟨"a", "b", kind, weight, .empty⟩
    let g := (two.withEdge (edge .requires 0.5)).withEdge (edge .import 1.0)
    let d := (two.withEdge (edge .import 2.0)).withEdge (edge .requires 1.0)
    (Keyed one ∧ Keyed two ∧ one.toDot ≠ two.toDot) ∧ Keyed g ∧ Keyed d ∧ g.toDot = d.toDot := by
  intro named one two edge g d
  have hone : Built one := .addNode _ rfl .empty
  have htwo : Built two := .addNode _ rfl (.addNode _ rfl .empty)
  have hg : Built g := (htwo.withEdge (by decide +kernel) (by decide +kernel)).withEdge
    (by decide +kernel) (by decide +kernel)
  have hd : Built d := (htwo.withEdge (by decide +kernel) (by decide +kernel)).withEdge
    (by decide +kernel) (by decide +kernel)
  refine ⟨⟨hone.counted.keyed, htwo.counted.keyed, fun hsame => ?_⟩, hg.counted.keyed,
    hd.counted.keyed, ?_⟩
  · have hnodes := ((toDot_eq_toDot_iff hone.counted.keyed htwo.counted.keyed).mp hsame).1
    have hsecond := (hnodes ("b", "b", .module)).mpr (by decide +kernel)
    revert hsecond
    decide +kernel
  · refine (toDot_eq_toDot_iff hg.counted.keyed hd.counted.keyed).mpr ⟨?_, ?_⟩
    · have hnodes : g.nodes.values.map Node.drawn = d.nodes.values.map Node.drawn := by
        decide +kernel
      exact fun x => by rw [hnodes]
    · have hkeys : (g.edges.map Edge.key).Perm (d.edges.map Edge.key) := by decide +kernel
      exact fun key => hkeys.mem_iff

end DependencyGraph

end TagAtlas
