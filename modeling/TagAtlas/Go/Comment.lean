import TagAtlas.Go.SyntaxTree

/-!
# Comment groups

Comments belong to one group when no untouched line lies between them.
-/

namespace TagAtlas.Go

/-- A comment with its delimiters and the lines of its first and last character. -/
structure Comment where
  line : Nat
  endLine : Nat
  text : String
  deriving DecidableEq, Repr

structure CommentGroup where
  line : Nat
  /-- The last line that a comment of the group touches. -/
  endLine : Nat
  comments : List Comment
  /-- The exported declaration that the group documents. -/
  symbol : Option String
  deriving DecidableEq, Repr

namespace SyntaxNode

def commentNodes (root : SyntaxNode) : List SyntaxNode := root.descendants ["comment"]

def comment (source : List Char) (n : SyntaxNode) : Comment :=
  ⟨n.line source, n.extent.lastLine source, n.text source⟩

def comments (source : List Char) (root : SyntaxNode) : List Comment :=
  root.commentNodes.map (comment source)

end SyntaxNode

/-- Extends a group by the comments that follow it, and groups the rest. -/
def groupFrom (group : CommentGroup) : List Comment → List CommentGroup
  | [] => [group]
  | c :: rest =>
    if c.line ≤ group.endLine + 1 then
      groupFrom { group with
        endLine := max c.endLine group.endLine, comments := group.comments ++ [c] } rest
    else group :: groupFrom ⟨c.line, c.endLine, [c], none⟩ rest

/-- The groups of comments that are in the order of their lines. -/
def groupSorted : List Comment → List CommentGroup
  | [] => []
  | c :: rest => groupFrom ⟨c.line, c.endLine, [c], none⟩ rest

/-- The groups of some comments, by the line on which they begin. -/
def groupComments (comments : List Comment) : List CommentGroup :=
  groupSorted (comments.mergeSort fun a b => a.line ≤ b.line)

end TagAtlas.Go
