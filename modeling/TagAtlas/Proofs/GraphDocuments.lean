import TagAtlas.Proofs.GraphReplay
import TagAtlas.Proofs.JsonRecordReading

/-!
# Graphs in documents

A graph that is printed and read again is the same graph with its edges sorted: what is read are its
nodes and edges, and these make it again.
-/

namespace TagAtlas

theorem NodeKind.choice?_name (k : NodeKind) :
    Json.choice? NodeKind.named (.string k.name) = some k := by
  cases k <;> decide

theorem Node.ofJson?_toJson {n : Node} (hin : n.inDegree < 0x10000000000000000)
    (hout : n.outDegree < 0x10000000000000000) : Node.ofJson? n.toJson = some n := by
  simp only [Node.ofJson?, Option.bind_eq_bind, Option.bind_eq_some_iff, Option.pure_def,
    Option.some.injEq]
  exact ⟨_, rfl, n.id, Json.Record.required_eq rfl rfl, n.name, Json.Record.required_eq rfl rfl,
    n.kind, Json.Record.required_eq rfl n.kind.choice?_name,
    n.tags, Json.Record.required_eq rfl (Json.list?_ofStrings _),
    n.metadata, Json.Record.required_eq rfl (Json.dict?_ofDict fun _ _ => rfl),
    n.inDegree, Json.Record.required_eq rfl (Json.word64?_ofNat hin),
    n.outDegree, Json.Record.required_eq rfl (Json.word64?_ofNat hout), rfl⟩

theorem Edge.ofJson?_toJson (e : Edge) : Edge.ofJson? e.toJson = some e := by
  simp only [Edge.ofJson?, Option.bind_eq_bind, Option.bind_eq_some_iff, Option.pure_def,
    Option.some.injEq]
  exact ⟨_, rfl, e.source, Json.Record.required_eq rfl rfl,
    e.target, Json.Record.required_eq rfl rfl,
    e.kind, Json.Record.required_eq rfl e.kind.choice?_name,
    e.weight, Json.Record.required_eq rfl rfl,
    e.metadata, Json.Record.required_eq rfl (Json.dict?_ofDict fun _ _ => rfl), rfl⟩

theorem Node.stable_toJson {n : Node} (hin : n.inDegree < 0x10000000000000000)
    (hout : n.outDegree < 0x10000000000000000) : Json.Stable n.toJson := by
  refine .object fun m hm => ?_
  simp only [List.mem_cons, List.not_mem_nil, or_false] at hm
  rcases hm with rfl | rfl | rfl | rfl | rfl | rfl | rfl
  · exact .string ..
  · exact .string ..
  · exact .string ..
  · exact .ofStrings ..
  · exact .ofDict fun _ _ => .string ..
  · exact .nat hin
  · exact .nat hout

theorem Edge.stable_toJson {e : Edge} (h : Json.ReadsBack e.weight) :
    Json.Stable e.toJson := by
  refine .object fun m hm => ?_
  simp only [List.mem_cons, List.not_mem_nil, or_false] at hm
  rcases hm with rfl | rfl | rfl | rfl | rfl
  · exact .string ..
  · exact .string ..
  · exact .string ..
  · exact .real h
  · exact .ofDict fun _ _ => .string ..

namespace DependencyGraph

variable {g d : DependencyGraph}

/-- Counts and levels are numbers of 64 bits. -/
structure CountsFit (g : DependencyGraph) : Prop where
  inDegree : ∀ n ∈ g.nodes.values, n.inDegree < 0x10000000000000000
  outDegree : ∀ n ∈ g.nodes.values, n.outDegree < 0x10000000000000000
  level : ∀ l ∈ g.levels.values, l < 0x10000000000000000

theorem stable_toDocument (hfits : g.CountsFit) (hback : ∀ e ∈ g.edges, Json.ReadsBack e.weight) :
    Json.Stable g.toDocument := by
  refine .object fun m hm => ?_
  simp only [List.mem_cons, List.not_mem_nil, or_false] at hm
  rcases hm with rfl | rfl | rfl | rfl
  · exact .map fun n hn => Node.stable_toJson (hfits.inDegree n hn) (hfits.outDegree n hn)
  · exact .map fun e he => Edge.stable_toJson (hback e (g.sortedEdges_perm.mem_iff.mp he))
  · exact .map fun c _ => .ofStrings c
  · exact .ofDict fun l hl => .nat (hfits.level l hl)

theorem parts?_toDocument (hfits : g.CountsFit) :
    parts? g.toDocument = some (g.nodes.values, g.sortedEdges) := by
  have hnodes : Json.list? Node.ofJson? (.array (g.nodes.values.map Node.toJson)) =
      some g.nodes.values :=
    Json.list?_map fun n hn => Node.ofJson?_toJson (hfits.inDegree n hn) (hfits.outDegree n hn)
  have hedges : Json.list? Edge.ofJson? (.array (g.sortedEdges.map Edge.toJson)) =
      some g.sortedEdges := Json.list?_map fun e _ => e.ofJson?_toJson
  have hcycles : Json.list? (Json.list? Json.string?) (cyclesJson g.cycles) = some g.cycles :=
    Json.list?_map fun c _ => Json.list?_ofStrings c
  have hlevels : Json.dict? Json.word64? (Json.ofDict .ofNat g.levels) = some g.levels :=
    Json.dict?_ofDict fun l hl => Json.word64?_ofNat (hfits.level l hl)
  simp only [parts?, Option.bind_eq_bind, Option.bind_eq_some_iff, Option.pure_def,
    Option.some.injEq]
  exact ⟨_, rfl, g.nodes.values, Json.Record.required_eq rfl hnodes,
    g.sortedEdges, Json.Record.required_eq rfl hedges,
    g.cycles, Json.Record.defaulted_eq rfl hcycles,
    g.levels, Json.Record.defaulted_eq rfl hlevels, rfl⟩

/-- The text of a graph that counts its edges is read as the graph with its edges sorted. -/
theorem ofText_toText (h : Counted g) (hfits : g.refresh.CountsFit)
    (hback : ∀ e ∈ g.edges, Json.ReadsBack e.weight) :
    ofText g.refresh.toText = .ok { g.refresh with edges := g.sortedEdges } := by
  have hparse : Json.parse? g.refresh.toText = some g.refresh.toDocument :=
    (stable_toDocument hfits hback).parse?_pretty
  rw [ofText, hparse]
  dsimp only
  rw [ofDocument, parts?_toDocument hfits]
  have hbuild : build g.nodes.values g.sortedEdges = _ := build_of_perm h g.sortedEdges_perm
  exact hbuild

end DependencyGraph

end TagAtlas
