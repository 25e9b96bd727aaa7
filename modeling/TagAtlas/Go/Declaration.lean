import TagAtlas.Go.SyntaxTree
import TagAtlas.Text.Case

/-!
# Declarations of Go sources

What the nodes right below the root of a syntax tree declare. What is declared within them, in the
body of a function or in an expression, is not looked at.
-/

namespace TagAtlas

inductive SymbolKind where
  | function
  | type
  | variable
  | constant
  deriving DecidableEq, Repr

structure Symbol where
  name : String
  kind : SymbolKind
  line : Nat
  deriving DecidableEq, Repr

namespace Go

/-- A declared name, and the line that a comment above it must end right before. -/
structure Declared where
  symbol : Symbol
  anchor : Nat
  deriving DecidableEq, Repr

/-- Whether a name is exported: it begins with an upper-case letter. -/
def isExported (name : String) : Bool :=
  match name.toList with
  | c :: _ => Text.isUppercase c
  | [] => false

/-- A string without the quotes at its ends. -/
def withoutQuotes (s : String) : String :=
  let isQuote (c : Char) : Bool := c = '\x22' || c = '\x60'
  String.ofList ((s.toList.dropWhile isQuote).reverse.dropWhile isQuote).reverse

namespace SyntaxNode

variable (source : List Char)

/-- The declarations of some names. An empty name declares nothing. -/
def declare (kind : SymbolKind) (line anchor : Nat) (names : List SyntaxNode) : List Declared :=
  ((names.map (text source)).filter (· ≠ "")).map fun name => ⟨⟨name, kind, line⟩, anchor⟩

/-- The names that one specification declares. The blank name declares nothing. -/
def specNames (kind : SymbolKind) (anchor : Nat) (spec : SyntaxNode) : List Declared :=
  let names := (spec.childrenIn "name").filter (·.label.isNamed)
  declare source kind (spec.line source) anchor (names.filter (·.text source ≠ "_"))

/-- Whether an opening parenthesis stands before the first of some specifications, be it in a
comment. -/
def isGrouped (decl : SyntaxNode) : List SyntaxNode → Bool
  | [] => false
  | first :: _ => ((source.take first.extent.start).drop decl.extent.start).contains '('

/-- The specifications of a group in parentheses are anchored at their own lines, a lone one at the
line of the keyword. -/
def specifications (specKinds : List String) (kind : SymbolKind) (decl : SyntaxNode) :
    List Declared :=
  let specs := decl.descendants specKinds
  let grouped := decl.isGrouped source specs
  specs.flatMap fun spec =>
    spec.specNames source kind (if grouped then spec.line source else decl.line source)

def declared (n : SyntaxNode) : List Declared :=
  if n.kind = "function_declaration" || n.kind = "method_declaration" then
    declare source .function (n.line source) (n.line source) (n.childrenIn "name").head?.toList
  else if n.kind = "type_declaration" then
    n.specifications source ["type_spec", "type_alias"] .type
  else if n.kind = "var_declaration" then n.specifications source ["var_spec"] .variable
  else if n.kind = "const_declaration" then n.specifications source ["const_spec"] .constant
  else []

def packageName? (n : SyntaxNode) : Option String :=
  if n.kind = "package_clause" then
    (n.children.find? fun c => c.label.isNamed && c.kind = "package_identifier").map (text source)
  else none

def imports (n : SyntaxNode) : List String :=
  if n.kind = "import_declaration" then
    let paths := (n.descendants ["import_spec"]).filterMap fun spec =>
      (spec.childrenIn "path").head?
    (paths.map fun path => withoutQuotes (path.text source)).filter (· ≠ "")
  else []

end SyntaxNode

end Go

end TagAtlas
