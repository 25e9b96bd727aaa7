import TagAtlas.Go.Lexeme
import TagAtlas.Grammar.Chart

/-!
# Grammar of Go sources

A source is a sequence of declarations and statements in any order, so a package clause may lack
or be repeated and imports may stand anywhere. Only the form is described: precedence, types and
names are of no concern, and a phrase may be read in more than one way. A line end is a terminator
where one may stand, and means nothing elsewhere: within a list in brackets, say, or before the
brace of a condition.
-/

namespace TagAtlas.Go

inductive Phrase where
  | source | entryLine | entry | terminator
  | packageClause | importDecl | importSpec | importLines | importRow
  | constDecl | constSpec | constLines
  | varDecl | varSpec | varLines
  | typeDecl | typeSpec | typeLines
  | typeParams | typeParamList | typeParam | typeUnion | typeTerm
  | funcDecl | methodDecl | signature | params | paramList | param
  | type | typeName | types
  | fieldLines | fieldRow | field | embedded
  | elementLines | elementRow | element
  | block | body | lines | line
  | statement | simple | names | exprs
  | assignOp | ifStatement | header | forStatement | switchStatement | typeGuard
  | cases | caseClause | caseItems | caseItem | commCases | commClause
  | expr | unary | binaryOp | unaryOp | primary | operand
  | args | argList | indexes | slice
  | literalType | literalValue | elements | keyed | elementValue
  deriving DecidableEq, Repr, Hashable

inductive Terminal where
  | name
  | number
  | string
  | rune
  | lineEnd
  | mark (text : String)
  deriving DecidableEq, Repr

namespace Phrase

abbrev P := Grammar.Part Phrase Terminal

instance : Coe Phrase P := ⟨fun p => .one (.nonterminal p)⟩

instance : Coe String P := ⟨fun s => .one (.terminal (.mark s))⟩

def opt (p : Phrase) : P := .maybe (.nonterminal p)

def optMark (s : String) : P := .maybe (.terminal (.mark s))

def name : P := .one (.terminal .name)

def optName : P := .maybe (.terminal .name)

def string : P := .one (.terminal .string)

def optString : P := .maybe (.terminal .string)

def number : P := .one (.terminal .number)

def rune : P := .one (.terminal .rune)

def lineEnd : P := .one (.terminal .lineEnd)

def openBrace : P := "\x7b"

def closeBrace : P := "\x7d"

def oneOf (marks : List String) : List (List P) := marks.map fun (m : String) => [m]

def closedRules (many item : Phrase) : List (Grammar.Rule Phrase Terminal) :=
  Grammar.rules many [[item, terminator], [many, item, terminator]]

/-- Items with terminators between them, and perhaps one more after the last. -/
def separatedRules (many row item : Phrase) : List (Grammar.Rule Phrase Terminal) :=
  Grammar.rules row [[item], [row, terminator, item]] ++
  Grammar.rules many [[row], [row, terminator]]

def declarationRules : List (Grammar.Rule Phrase Terminal) :=
  Grammar.rules source [[entryLine], [source, entryLine]] ++
  Grammar.rules entryLine [[";"], [entry, terminator]] ++
  Grammar.rules terminator [[";"], [lineEnd]] ++
  Grammar.rules entry [[packageClause], [importDecl], [funcDecl], [methodDecl], [statement]] ++
  Grammar.rules packageClause [["package", name]] ++
  Grammar.rules importDecl [["import", importSpec], ["import", "(", opt importLines, ")"]] ++
  Grammar.rules importSpec [[optName, string], [".", string]] ++
  separatedRules importLines importRow importSpec ++
  Grammar.rules constDecl [["const", constSpec], ["const", "(", opt constLines, ")"]] ++
  Grammar.rules constSpec [[names, opt type, "=", exprs], [names, opt type]] ++
  closedRules constLines constSpec ++
  Grammar.rules varDecl [["var", varSpec], ["var", "(", opt varLines, ")"]] ++
  Grammar.rules varSpec [[names, type], [names, opt type, "=", exprs]] ++
  closedRules varLines varSpec ++
  Grammar.rules typeDecl [["type", typeSpec], ["type", "(", opt typeLines, ")"]] ++
  Grammar.rules typeSpec [[name, opt typeParams, optMark "=", type]] ++
  closedRules typeLines typeSpec ++
  Grammar.rules typeParams [["[", typeParamList, optMark ",", "]"]] ++
  Grammar.rules typeParamList [[typeParam], [typeParamList, ",", typeParam]] ++
  Grammar.rules typeParam [[names, typeUnion]] ++
  Grammar.rules typeUnion [[typeTerm], [typeUnion, "|", typeTerm]] ++
  Grammar.rules typeTerm [[optMark "~", type]] ++
  Grammar.rules funcDecl [["func", name, opt typeParams, signature, opt block]] ++
  Grammar.rules methodDecl [["func", params, name, signature, opt block]] ++
  Grammar.rules signature [[params, opt type], [params, params]] ++
  Grammar.rules params [["(", ")"], ["(", paramList, optMark ",", ")"]] ++
  Grammar.rules paramList [[param], [paramList, ",", param]] ++
  Grammar.rules param [[optName, optMark "...", type]]

def typeRules : List (Grammar.Rule Phrase Terminal) :=
  Grammar.rules type [
    [typeName], [typeName, "[", types, optMark ",", "]"], ["(", type, ")"], ["*", type],
    ["[", "]", type], ["[", expr, "]", type], ["[", "...", "]", type],
    ["struct", openBrace, opt fieldLines, closeBrace], ["func", signature],
    ["interface", openBrace, opt elementLines, closeBrace],
    ["map", "[", type, "]", type], ["chan", type], ["chan", "<-", type], ["<-", "chan", type]] ++
  Grammar.rules typeName [[name], [name, ".", name]] ++
  Grammar.rules types [[typeUnion], [types, ",", typeUnion]] ++
  separatedRules fieldLines fieldRow field ++
  Grammar.rules field [[names, type, optString], [embedded, optString]] ++
  Grammar.rules embedded [[optMark "*", typeName],
    [optMark "*", typeName, "[", types, optMark ",", "]"]] ++
  separatedRules elementLines elementRow element ++
  Grammar.rules element [[name, signature], [typeUnion]]

def statementRules : List (Grammar.Rule Phrase Terminal) :=
  Grammar.rules block [[openBrace, opt body, closeBrace]] ++
  Grammar.rules body [[lines], [statement], [lines, statement]] ++
  Grammar.rules lines [[line], [lines, line]] ++
  Grammar.rules line [[";"], [statement, terminator]] ++
  Grammar.rules statement [
    [simple], [constDecl], [varDecl], [typeDecl], [block], [ifStatement], [forStatement],
    [switchStatement], ["return", opt exprs], ["go", expr], ["defer", expr],
    ["break", optName], ["continue", optName], ["goto", name], ["fallthrough"],
    [name, ":", opt statement]] ++
  Grammar.rules simple [
    [expr], [exprs, assignOp, exprs], [exprs, ":=", exprs], [expr, "++"], [expr, "--"],
    [expr, "<-", expr]] ++
  Grammar.rules names [[name], [names, ",", name]] ++
  Grammar.rules exprs [[expr], [exprs, ",", expr]] ++
  Grammar.rules assignOp (oneOf
    ["=", "+=", "-=", "*=", "/=", "%=", "&=", "|=", "^=", "<<=", ">>=", "&^="]) ++
  Grammar.rules ifStatement [
    ["if", opt header, expr, block], ["if", opt header, expr, block, "else", block],
    ["if", opt header, expr, block, "else", ifStatement]] ++
  Grammar.rules header [[";"], [simple, ";"]] ++
  Grammar.rules forStatement [
    ["for", opt expr, block], ["for", opt simple, ";", opt expr, ";", opt simple, block],
    ["for", "range", expr, block], ["for", exprs, "=", "range", expr, block],
    ["for", exprs, ":=", "range", expr, block]] ++
  Grammar.rules switchStatement [
    ["switch", opt header, opt expr, openBrace, opt cases, closeBrace],
    ["switch", opt header, typeGuard, openBrace, opt cases, closeBrace],
    ["select", openBrace, opt commCases, closeBrace]] ++
  Grammar.rules typeGuard [
    [primary, ".", "(", "type", ")"], [names, ":=", primary, ".", "(", "type", ")"]] ++
  Grammar.rules cases [[caseClause], [cases, caseClause]] ++
  Grammar.rules caseClause [["case", caseItems, ":", opt body], ["default", ":", opt body]] ++
  Grammar.rules caseItems [[caseItem], [caseItems, ",", caseItem]] ++
  Grammar.rules caseItem [[expr], [type]] ++
  Grammar.rules commCases [[commClause], [commCases, commClause]] ++
  Grammar.rules commClause [["case", simple, ":", opt body], ["default", ":", opt body]]

def expressionRules : List (Grammar.Rule Phrase Terminal) :=
  Grammar.rules expr [[unary], [expr, binaryOp, unary]] ++
  Grammar.rules unary [[primary], [unaryOp, unary]] ++
  Grammar.rules binaryOp (oneOf
    ["||", "&&", "==", "!=", "<", "<=", ">", ">=", "+", "-", "|", "^", "*", "/", "%", "<<", ">>",
      "&", "&^"]) ++
  Grammar.rules unaryOp (oneOf ["+", "-", "!", "^", "*", "&", "<-"]) ++
  Grammar.rules primary [
    [operand], [primary, ".", name], [primary, ".", "(", type, ")"],
    [primary, "[", indexes, optMark ",", "]"], [primary, "[", slice, "]"], [primary, args],
    [type, "(", expr, optMark ",", ")"], [literalType, literalValue]] ++
  Grammar.rules operand [
    [number], [string], [rune], [name], ["func", signature, block], ["(", expr, ")"],
    ["(", type, ")"]] ++
  Grammar.rules args [["(", ")"], ["(", argList, optMark "...", optMark ",", ")"]] ++
  Grammar.rules argList [[caseItem], [argList, ",", caseItem]] ++
  Grammar.rules indexes [[caseItem], [indexes, ",", caseItem]] ++
  Grammar.rules slice [[opt expr, ":", opt expr], [opt expr, ":", expr, ":", expr]] ++
  Grammar.rules literalType [
    ["struct", openBrace, opt fieldLines, closeBrace], ["map", "[", type, "]", type],
    ["[", "]", type], ["[", expr, "]", type], ["[", "...", "]", type],
    [typeName], [typeName, "[", types, optMark ",", "]"]] ++
  Grammar.rules literalValue [
    [openBrace, closeBrace], [openBrace, elements, optMark ",", closeBrace]] ++
  Grammar.rules elements [[keyed], [elements, ",", keyed]] ++
  Grammar.rules keyed [[elementValue], [elementValue, ":", elementValue]] ++
  Grammar.rules elementValue [[expr], [literalValue]]

def grammar : List (Grammar.Rule Phrase Terminal) :=
  declarationRules ++ typeRules ++ statementRules ++ expressionRules

def layout : Grammar.Layout Phrase Terminal :=
  Grammar.layout grammar (grammar.map Grammar.Rule.head).eraseDups

end Phrase

/-- What the grammar sees of a lexeme; nothing of a comment. -/
def Lexeme.terminal? (l : Lexeme) : Option Terminal :=
  match l.kind with
  | .name => some .name
  | .number => some .number
  | .string => some .string
  | .rune => some .rune
  | .mark => some (.mark l.text)
  | .lineEnd => some .lineEnd
  | .comment => none

def Lexeme.isCode (l : Lexeme) : Bool := l.kind ≠ .comment && l.kind ≠ .lineEnd

/-- The lexemes of a source without the line ends that are no terminators, or the one at which they
stop being a source; none when the source ends too early. -/
def settle (lexemes : List Lexeme) : Except (Option Lexeme) (List Lexeme) :=
  if lexemes.any Lexeme.isCode then
    Grammar.read Phrase.layout .source Lexeme.terminal? (· = .lineEnd) lexemes
  else .ok (lexemes.filter (·.kind = .comment))

end TagAtlas.Go
