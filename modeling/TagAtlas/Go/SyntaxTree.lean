/-!
# Syntax trees

A parser of Go gives a tree for a source. Its nodes say what they are, and from where to where they
stand in the source; positions count characters. The parser is a parameter of all that reads
sources: it is given as an instance of `Parser`.
-/

namespace TagAtlas.Go

def lineFeeds (s : List Char) : Nat := s.count '\n'

def lineAt (source : List Char) (position : Nat) : Nat := 1 + lineFeeds (source.take position)

/-- Where something stands in a source: up to but not including `stop`. -/
structure Extent where
  start : Nat
  stop : Nat
  start_le_stop : start ≤ stop := by omega
  deriving DecidableEq, Repr

namespace Extent

def chars (source : List Char) (e : Extent) : List Char := (source.take e.stop).drop e.start

def text (source : List Char) (e : Extent) : String := String.ofList (e.chars source)

def firstLine (source : List Char) (e : Extent) : Nat := lineAt source e.start

def lastLine (source : List Char) (e : Extent) : Nat := lineAt source e.stop

/-- From where the one or the other starts up to where both have stopped. -/
def hull (a b : Extent) : Extent where
  start := min a.start b.start
  stop := max a.stop b.stop
  start_le_stop := by have := a.start_le_stop; omega

end Extent

structure NodeLabel where
  kind : String
  extent : Extent
  field : Option String := none
  isNamed : Bool := true
  /-- Whether the parser has put it where the source lacks it. -/
  isMissing : Bool := false

inductive SyntaxNode where
  | node (label : NodeLabel) (children : List SyntaxNode)

namespace SyntaxNode

def label : SyntaxNode → NodeLabel
  | node l _ => l

def children : SyntaxNode → List SyntaxNode
  | node _ cs => cs

def kind (n : SyntaxNode) : String := n.label.kind

def extent (n : SyntaxNode) : Extent := n.label.extent

def text (source : List Char) (n : SyntaxNode) : String := n.extent.text source

def line (source : List Char) (n : SyntaxNode) : Nat := n.extent.firstLine source

def childrenIn (field : String) (n : SyntaxNode) : List SyntaxNode :=
  n.children.filter (·.label.field = some field)

/-! ### Looking below a node -/

mutual
/-- The nodes of some kinds below a node. What lies below one of them is not looked at. -/
def descendants (kinds : List String) : SyntaxNode → List SyntaxNode
  | node _ cs => descendantsAmong kinds cs

def descendantsAmong (kinds : List String) : List SyntaxNode → List SyntaxNode
  | [] => []
  | n :: rest =>
    (if kinds.contains n.kind then [n] else n.descendants kinds) ++ descendantsAmong kinds rest
end

/-! ### Errors -/

/-- Marks what the parser could not make a part of the tree. -/
def errorKind : String := "ERROR"

def isFault (n : SyntaxNode) : Bool := n.kind = errorKind || n.label.isMissing

mutual
def hasFault : SyntaxNode → Bool
  | node l cs => (node l cs).isFault || hasFaultAmong cs

def hasFaultAmong : List SyntaxNode → Bool
  | [] => false
  | n :: rest => n.hasFault || hasFaultAmong rest
end

/-- What is wrong with a node, if nothing below it is. -/
def complaint (n : SyntaxNode) : String :=
  if n.label.isMissing then "missing " ++ n.kind else "syntax error"

mutual
/-- The line of the first fault of a tree, and what it is. -/
def firstFault (source : List Char) : SyntaxNode → Nat × String
  | node l cs =>
    if (node l cs).isFault then ((node l cs).line source, (node l cs).complaint)
    else (firstFaultAmong source cs).getD ((node l cs).line source, "syntax error")

def firstFaultAmong (source : List Char) : List SyntaxNode → Option (Nat × String)
  | [] => none
  | n :: rest => if n.hasFault then some (n.firstFault source) else firstFaultAmong source rest
end

end SyntaxNode

/-- Gives the syntax tree of a source, if it gives one at all. -/
class Parser where
  parse? : String → Option SyntaxNode

end TagAtlas.Go
