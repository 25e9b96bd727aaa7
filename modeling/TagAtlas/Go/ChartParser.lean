import TagAtlas.Go.Phrase

/-!
# A parser of Go

The lexemes of a source that the grammar reads are put into a tree. Its entries are the pieces
between terminators outside all brackets, and the first lexeme of an entry tells a declaration from
a statement. A tree shows declarations, their specifications and names; all else are leaves.
-/

namespace TagAtlas.Go

/-! ### Leaves -/

def LexemeKind.nodeKind : LexemeKind → String
  | .name => "identifier"
  | .number => "number_literal"
  | .string => "string_literal"
  | .rune => "rune_literal"
  | .mark => "mark"
  | .comment => "comment"
  | .lineEnd => "terminator"

/-- What some lexemes of a node are in it. -/
structure Role where
  kind : String
  field : Option String

def Lexeme.leafAs (role : Role) (l : Lexeme) : SyntaxNode :=
  .node { kind := role.kind, extent := l.extent, field := role.field,
          isNamed := l.kind ≠ .mark && l.kind ≠ .lineEnd } []

def Lexeme.leaf (l : Lexeme) : SyntaxNode := l.leafAs ⟨l.kind.nodeKind, none⟩

def leavesWith (role : Role) (chosen lexemes : List Lexeme) : List SyntaxNode :=
  lexemes.map fun l => if chosen.contains l then l.leafAs role else l.leaf

def nodeOver (kind : String) (first : Lexeme) (rest : List Lexeme) (children : List SyntaxNode) :
    SyntaxNode :=
  .node { kind := kind, extent := rest.foldl (fun e l => e.hull l.extent) first.extent } children

/-! ### Pieces -/

def codeOf (lexemes : List Lexeme) : List Lexeme := lexemes.filter (·.kind ≠ .comment)

def Lexeme.depthAfter (l : Lexeme) (depth : Nat) : Nat :=
  if l.kind = .mark then
    if l.text = "(" || l.text = "[" || l.text = "\x7b" then depth + 1
    else if l.text = ")" || l.text = "]" || l.text = "\x7d" then depth - 1
    else depth
  else depth

def Lexeme.isTerminator (l : Lexeme) : Bool := l.isMark ";" || l.kind = .lineEnd

/-- Cuts lexemes at the terminators outside all brackets. -/
def splitEntries (depth : Nat) : List Lexeme → List (List Lexeme)
  | [] => [[]]
  | l :: rest =>
    if depth = 0 && l.isTerminator then [] :: splitEntries 0 rest
    else match splitEntries (l.depthAfter depth) rest with
      | [] => [[l]]
      | piece :: more => (l :: piece) :: more

/-- What is inside the brackets that are open, and what follows from the closing one on. -/
def splitBrackets (depth : Nat) : List Lexeme → List Lexeme × List Lexeme
  | [] => ([], [])
  | l :: rest =>
    if l.depthAfter depth = 0 then ([], l :: rest)
    else
      let (inside, after) := splitBrackets (l.depthAfter depth) rest
      (l :: inside, after)

/-- The comments in front of a piece as leaves, and the rest of it as one node. -/
def behindComments (build : Lexeme → List Lexeme → SyntaxNode) (piece : List Lexeme) :
    List SyntaxNode :=
  (piece.takeWhile (·.kind = .comment)).map Lexeme.leaf ++
    match piece.dropWhile (·.kind = .comment) with
    | [] => []
    | first :: rest => [build first rest]

/-! ### Declarations -/

def leadingNames : List Lexeme → List Lexeme
  | [] => []
  | l :: rest =>
    if l.kind = .name then
      match rest with
      | comma :: more => if comma.isMark "," then l :: leadingNames more else [l]
      | [] => [l]
    else []

/-- How the specifications of some keyword look: their kind, and which lexemes have a role. -/
structure SpecForm where
  keyword : String
  declKind : String
  specKind : String
  role : Role
  chosen : List Lexeme → List Lexeme

def specForms : List SpecForm :=
  [⟨"import", "import_declaration", "import_spec", ⟨"string_literal", some "path"⟩,
      fun code => code.filter (·.kind = .string)⟩,
    ⟨"type", "type_declaration", "type_spec", ⟨"type_identifier", some "name"⟩,
      fun code => leadingNames (code.take 1)⟩,
    ⟨"var", "var_declaration", "var_spec", ⟨"identifier", some "name"⟩, leadingNames⟩,
    ⟨"const", "const_declaration", "const_spec", ⟨"identifier", some "name"⟩, leadingNames⟩]

namespace SpecForm

def specNode (form : SpecForm) (first : Lexeme) (rest : List Lexeme) : SyntaxNode :=
  let chosen := form.chosen (codeOf (first :: rest))
  nodeOver form.specKind first rest (leavesWith form.role chosen (first :: rest))

/-- What follows the keyword: one specification, or several in parentheses. -/
def specNodes (form : SpecForm) (lexemes : List Lexeme) : List SyntaxNode :=
  let comments := lexemes.takeWhile (·.kind = .comment)
  match lexemes.dropWhile (·.kind = .comment) with
  | [] => comments.map Lexeme.leaf
  | first :: rest =>
    if first.isMark "(" then
      let (inside, after) := splitBrackets 1 rest
      (comments ++ [first]).map Lexeme.leaf ++
        (splitEntries 0 inside).flatMap (behindComments form.specNode) ++ after.map Lexeme.leaf
    else comments.map Lexeme.leaf ++ [form.specNode first rest]

end SpecForm

/-- The name after the receiver of a method. A function without a name has none. -/
def methodName? (code : List Lexeme) : Option Lexeme :=
  match (splitBrackets 0 code).2 with
  | _ :: name :: paren :: _ => if name.kind = .name && paren.isMark "(" then some name else none
  | _ => none

/-- What an entry is that begins with the keyword of functions, and what is named in it. -/
def functionForm (code : List Lexeme) : String × Role × List Lexeme :=
  match code.head?.filter (·.kind = .name), methodName? code with
  | some name, _ => ("function_declaration", ⟨"identifier", some "name"⟩, [name])
  | none, some name => ("method_declaration", ⟨"field_identifier", some "name"⟩, [name])
  | none, none => ("statement", ⟨"identifier", none⟩, [])

def entryNode (first : Lexeme) (rest : List Lexeme) : SyntaxNode :=
  if first.isMark "package" then
    let name := (codeOf rest).take 1
    nodeOver "package_clause" first rest
      (first.leaf :: leavesWith ⟨"package_identifier", none⟩ name rest)
  else if first.isMark "func" then
    let (kind, role, name) := functionForm (codeOf rest)
    nodeOver kind first rest (first.leaf :: leavesWith role name rest)
  else match specForms.find? fun form => first.isMark form.keyword with
    | some form => nodeOver form.declKind first rest (first.leaf :: form.specNodes rest)
    | none => nodeOver "statement" first rest ((first :: rest).map Lexeme.leaf)

/-! ### Trees -/

def rootOver (length : Nat) (children : List SyntaxNode) : SyntaxNode :=
  .node { kind := "source_file", extent := { start := 0, stop := length } } children

def treeOf (length : Nat) (lexemes : List Lexeme) : SyntaxNode :=
  rootOver length ((splitEntries 0 lexemes).flatMap (behindComments entryNode))

def brokenTree (length position : Nat) : SyntaxNode :=
  rootOver length
    [.node { kind := SyntaxNode.errorKind,
             extent := { start := min position length, stop := length } } []]

def parse (source : String) : SyntaxNode :=
  let text := source.toList
  match lex text with
  | .error position => brokenTree text.length position
  | .ok lexemes =>
    match settle lexemes with
    | .error culprit =>
      brokenTree text.length ((culprit.map fun l => l.extent.start).getD text.length)
    | .ok left => treeOf text.length left

/-- The parser that reads sources unless another one is given. -/
instance (priority := low) chartParser : Parser := ⟨fun source => some (parse source)⟩

end TagAtlas.Go
