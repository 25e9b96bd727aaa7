import TagAtlas.Failure
import TagAtlas.Go.Comment
import TagAtlas.Go.Declaration
import TagAtlas.Text.Search

/-!
# Outline of a Go source

The package name, the imported paths, the exported declarations and the comment groups of a
source. A group documents the first exported declaration whose anchor is the line right below it.
-/

namespace TagAtlas.Go

/-- What the analyses take from a source. -/
structure Outline where
  packageName : String
  imports : List String
  symbols : List Symbol
  groups : List CommentGroup
  lineCount : Nat
  deriving DecidableEq, Repr

/-- Attaches a group to the exported declaration right below it. -/
def CommentGroup.attach (declared : List Declared) (group : CommentGroup) : CommentGroup :=
  { group with
    symbol := (declared.find? fun d =>
      isExported d.symbol.name && d.anchor = group.endLine + 1).map fun d => d.symbol.name }

namespace SyntaxNode

variable (source : List Char)

def declarations (root : SyntaxNode) : List Declared :=
  (root.children.filter (·.label.isNamed)).flatMap (declared source)

def groups (root : SyntaxNode) : List CommentGroup :=
  (groupComments (root.comments source)).map (CommentGroup.attach (root.declarations source))

/-- The outline of a source of which the syntax tree is known. The last package clause counts. -/
def outline (root : SyntaxNode) : Outline :=
  let entries := root.children.filter (·.label.isNamed)
  { packageName := (entries.filterMap (packageName? source)).getLast?.getD ""
    imports := entries.flatMap (imports source)
    symbols := ((root.declarations source).map Declared.symbol).filter fun s => isExported s.name
    groups := root.groups source
    lineCount := (Text.lines source).length }

end SyntaxNode

/-- The outline of a source, which must have a tree without faults. -/
def outline [Parser] (path source : String) : Except Failure Outline :=
  match Parser.parse? source with
  | none => .error (.malformedSource path 1 "parser produced no tree")
  | some root =>
    if root.hasFault then
      let (line, message) := root.firstFault source.toList
      .error (.malformedSource path line message)
    else .ok (root.outline source.toList)

end TagAtlas.Go
