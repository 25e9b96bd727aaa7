import TagAtlas.Proofs.ParsedTrees
import TagAtlas.Proofs.TagLines

/-!
# Comments and what they document

A comment group documents the exported declaration right below its last line, whatever else stands
on the lines of its comments. So a comment behind code documents the declaration on the next line
as a comment on a line of its own would.
-/

namespace TagAtlas

namespace Go

open SyntaxNode (commentNodes)

variable {source : List Char} {root : SyntaxNode}

/-- Code stands before a node on the line on which it begins: a character that is neither a blank
nor a mark of byte order, and part of no comment. -/
def FollowsCode (source : List Char) (root n : SyntaxNode) : Prop :=
  ∃ position < n.extent.start, lineAt source position = n.line source ∧
    (∃ c ∈ source[position]?, Text.isBlank c = false ∧ c ≠ '\uFEFF') ∧
    ∀ m ∈ root.commentNodes, ¬(m.extent.start ≤ position ∧ position < m.extent.stop)

def Trails (source : List Char) (root : SyntaxNode) (c : Comment) : Prop :=
  ∃ n ∈ root.commentNodes, n.comment source = c ∧ FollowsCode source root n

/-- The group ends right above an exported declaration of the name. -/
def StandsAbove (source : List Char) (root : SyntaxNode) (g : CommentGroup) (name : String) :
    Prop :=
  ∃ d ∈ root.declarations source,
    d.symbol.name = name ∧ isExported name = true ∧ d.anchor = g.endLine + 1

theorem symbol_of_mem_groups {g : CommentGroup} (h : g ∈ root.groups source) :
    g.symbol = (g.declaredBelow (root.declarations source)).head?.map fun d => d.symbol.name := by
  obtain ⟨g, -, rfl⟩ := List.mem_map.mp h
  exact CommentGroup.symbol_attach _ g

theorem spans_of_mem_groups {g : CommentGroup} (h : g ∈ root.groups source) : g.Spans := by
  obtain ⟨g, hg, rfl⟩ := List.mem_map.mp h
  have hlines : ∀ c ∈ root.comments source, c.line ≤ c.endLine := fun _ hc =>
    SyntaxNode.line_le_endLine_of_mem_comments hc
  have hwhole := (grouped_groupComments hlines).whole g hg
  exact ⟨hwhole.first, hwhole.line_le, hwhole.last, hwhole.endLine_le⟩

theorem standsAbove_of_symbol {g : CommentGroup} {name : String} (hg : g ∈ root.groups source)
    (h : g.symbol = some name) : StandsAbove source root g name := by
  rw [symbol_of_mem_groups hg, Option.map_eq_some_iff] at h
  obtain ⟨d, hd, rfl⟩ := h
  obtain ⟨hmem, hexported, hanchor⟩ := CommentGroup.mem_declaredBelow_iff.mp
    (List.mem_of_head? hd)
  exact ⟨d, hmem, rfl, hexported, hanchor⟩

end Go

namespace FileSummary

open Go (SyntaxNode Trails StandsAbove)

variable {path : String} {source : List Char} {root : SyntaxNode} {f : FileSummary}

/-- What has a symbol has it from a group right above the declaration, and from a comment with no
code before it on its line. -/
def OnlyDocsAttach (path : String) (source : List Char) (root : SyntaxNode) : Prop :=
  ∀ g ∈ root.groups source, ∀ c ∈ g.comments, ∀ t ∈ tagsIn path g c, ∀ name,
    t.symbol = some name → ¬Trails source root c ∧ StandsAbove source root g name

/-- The tags of a file have their symbols from the lines of groups and declarations only. -/
structure AttachedByLine (path : String) (source : List Char) (root : SyntaxNode)
    (f : FileSummary) : Prop where
  tags : f.tags = (root.groups source).flatMap fun g => g.comments.flatMap (tagsIn path g)
  spans : ∀ g ∈ root.groups source, g.Spans
  symbol : ∀ g ∈ root.groups source, ∀ c ∈ g.comments, ∀ t ∈ tagsIn path g c,
    t.symbol = (g.declaredBelow (root.declarations source)).head?.map fun d => d.symbol.name
  above : ∀ g ∈ root.groups source, ∀ c ∈ g.comments, ∀ t ∈ tagsIn path g c, ∀ name,
    t.symbol = some name → StandsAbove source root g name
  /-- Only doc comments attach just when nothing exported is right below a group that has a tag
  behind code. -/
  onlyDocs_iff : OnlyDocsAttach path source root ↔ ∀ g ∈ root.groups source, ∀ c ∈ g.comments,
    Trails source root c → tagsIn path g c ≠ [] → g.declaredBelow (root.declarations source) = []

theorem symbol_of_mem_tagsIn {g : Go.CommentGroup} {c : Go.Comment} {t : Tag}
    (h : t ∈ tagsIn path g c) : t.symbol = g.symbol := by
  obtain ⟨u, -, rfl⟩ := List.mem_map.mp h
  rfl

theorem onlyDocsAttach_iff : OnlyDocsAttach path source root ↔
    ∀ g ∈ root.groups source, ∀ c ∈ g.comments, Trails source root c → tagsIn path g c ≠ [] →
      g.declaredBelow (root.declarations source) = [] := by
  constructor
  · intro h g hg c hc htrails hne
    obtain ⟨t, ht⟩ := List.exists_mem_of_ne_nil _ hne
    cases hbelow : g.declaredBelow (root.declarations source) with
    | nil => rfl
    | cons d rest =>
      have hsymbol : t.symbol = some d.symbol.name := by
        rw [symbol_of_mem_tagsIn ht, Go.symbol_of_mem_groups hg, hbelow]
        rfl
      exact absurd htrails (h g hg c hc t ht _ hsymbol).1
  · intro h g hg c hc t ht name hname
    rw [symbol_of_mem_tagsIn ht] at hname
    refine ⟨fun htrails => ?_, Go.standsAbove_of_symbol hg hname⟩
    rw [Go.symbol_of_mem_groups hg, h g hg c hc htrails (List.ne_nil_of_mem ht)] at hname
    cases hname

theorem attachedByLine_of_ofSource [Go.Parser] {source : String}
    (h : ofSource path source = .ok f) :
    ∃ root, Go.Parser.parse? source = some root ∧ AttachedByLine path source.toList root f := by
  obtain ⟨root, hparse, -, htags, -⟩ := exists_of_ofSource h
  refine ⟨root, hparse, ?_⟩
  constructor
  case tags => exact htags
  case spans => exact fun g => Go.spans_of_mem_groups
  case symbol =>
    intro g hg c _ t ht
    rw [symbol_of_mem_tagsIn ht, Go.symbol_of_mem_groups hg]
  case above =>
    intro g hg c _ t ht name hname
    exact Go.standsAbove_of_symbol hg (symbol_of_mem_tagsIn ht ▸ hname)
  case onlyDocs_iff => exact onlyDocsAttach_iff

end FileSummary

/-! ### A comment behind code -/

namespace Go

open Grammar (Derives)

/-- A declaration with a comment behind it, and one right below. -/
def trailingSource : String := "package a\ntype b int // @kthulu:service:foo\ntype Foo b"

def lexemeFrom (start : Nat) (kind : LexemeKind) (text : String) : Lexeme :=
  ⟨kind, text, { start := start, stop := start + text.length }⟩

def trailingLexemes : List Lexeme :=
  [lexemeFrom 0 .mark "package", lexemeFrom 8 .name "a", lexemeFrom 9 .lineEnd "\n",
    lexemeFrom 10 .mark "type", lexemeFrom 15 .name "b", lexemeFrom 17 .name "int",
    lexemeFrom 21 .comment "// @kthulu:service:foo", lexemeFrom 43 .lineEnd "\n",
    lexemeFrom 44 .mark "type", lexemeFrom 49 .name "Foo", lexemeFrom 53 .name "b",
    lexemeFrom 54 .lineEnd ""]

namespace Phrase

theorem derives_lineEnd : Derives grammar [.nonterminal .terminator] [.lineEnd] :=
  Derives.ofRule Phrase.terminator (by decide +kernel) (.terminal Terminal.lineEnd .nil)

theorem derives_packageLine :
    Derives grammar [.nonterminal .entryLine] [.mark "package", .name, .lineEnd] := by
  have hcode : Derives grammar [.terminal (.mark "package"), .terminal .name]
      [.mark "package", .name] := .terminal _ (.terminal _ .nil)
  have hclause := Derives.ofRule .packageClause (by decide +kernel) hcode
  have hentry := Derives.ofRule .entry (by decide +kernel) hclause
  exact Derives.ofRule .entryLine (by decide +kernel) (hentry.append derives_lineEnd)

theorem derives_typeLine :
    Derives grammar [.nonterminal .entryLine] [.mark "type", .name, .name, .lineEnd] := by
  have hname : Derives grammar [.terminal .name] [.name] := .terminal _ .nil
  have htypeName := Derives.ofRule .typeName (by decide +kernel) hname
  have htype := Derives.ofRule .type (by decide +kernel) htypeName
  have hspec := Derives.ofRule .typeSpec (by decide +kernel) (hname.append htype)
  have hdecl := Derives.ofRule .typeDecl (by decide +kernel) (.terminal (.mark "type") hspec)
  have hstatement := Derives.ofRule .statement (by decide +kernel) hdecl
  have hentry := Derives.ofRule .entry (by decide +kernel) hstatement
  exact Derives.ofRule .entryLine (by decide +kernel) (hentry.append derives_lineEnd)

end Phrase

theorem isSource_trailingLexemes : IsSource trailingLexemes := by
  have hone := Derives.ofRule .source (by decide +kernel) Phrase.derives_packageLine
  have htwo := Derives.ofRule .source (by decide +kernel) (hone.append Phrase.derives_typeLine)
  exact Derives.ofRule .source (by decide +kernel) (htwo.append Phrase.derives_typeLine)

theorem parse_trailingSource : parse trailingSource = treeOf 54 trailingLexemes := by
  have hlex : lex trailingSource.toList = .ok trailingLexemes := by decide +kernel
  have hsettle := (settle_eq_self_iff (by decide)).mpr isSource_trailingLexemes
  simp only [parse, hlex, hsettle]
  rfl

end Go

namespace FileSummary

/-- The comment stands behind code, and yet its tag has the symbol of the declaration below. -/
theorem attachedByLine_of_ofSource_trailing :
    let source := Go.trailingSource
    let tag : Tag :=
      ⟨.service, some "foo", .empty, 2, "@kthulu:service:foo", some "Foo", some "a.go"⟩
    let f : FileSummary := ⟨"a.go", "a", none, [], [tag], [⟨"Foo", .type, 3⟩], 3, 54⟩
    ofSource "a.go" source = .ok f ∧
      ∃ root, Go.Parser.parse? source = some root ∧
        AttachedByLine "a.go" source.toList root f ∧
        ¬OnlyDocsAttach "a.go" source.toList root := by
  intro source tag f
  let tree := Go.treeOf 54 Go.trailingLexemes
  have hparse : Go.Parser.parse? source = some tree := congrArg some Go.parse_trailingSource
  have h : ofSource "a.go" source = .ok f := by
    rw [ofSource, Go.outline_eq_ok_iff.mpr ⟨tree, hparse, Go.hasFault_treeOf _ _, rfl⟩]
    refine congrArg Except.ok ?_
    decide +kernel
  obtain ⟨root, hroot, hattached⟩ := attachedByLine_of_ofSource h
  obtain rfl : tree = root := Option.some.inj (hparse.symm.trans hroot)
  refine ⟨h, tree, hparse, hattached, fun honly => ?_⟩
  let comment : Go.Comment := ⟨2, 2, "// @kthulu:service:foo"⟩
  let group : Go.CommentGroup := ⟨2, 2, [comment], some "Foo"⟩
  have hgroup : group ∈ tree.groups source.toList := by decide +kernel
  have htag : tag ∈ tagsIn "a.go" group comment := by decide +kernel
  have hdoc := honly group hgroup comment List.mem_cons_self tag htag "Foo" rfl
  let remark := Go.lexemeFrom 21 .comment "// @kthulu:service:foo"
  have hremarks : tree.commentNodes = [remark.leaf] := by
    rw [Go.commentNodes_treeOf]
    rfl
  refine hdoc.1 ⟨remark.leaf, ?_, ?_, 10, ?_, ?_, ⟨'t', ?_, ?_⟩, ?_⟩
  · simp [hremarks]
  · decide +kernel
  · decide
  · decide +kernel
  · decide +kernel
  · decide
  · simp only [hremarks, List.forall_mem_singleton]
    decide

end FileSummary

end TagAtlas
