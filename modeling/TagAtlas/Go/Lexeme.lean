import TagAtlas.Go.SyntaxTree
import TagAtlas.Text.Span
import TagAtlas.Text.NameTable

/-!
# Lexemes of Go sources

A source is cut into lexemes, comments and line ends included, and other blanks between them are
dropped. The end of the source counts as a line end. Every lexeme before it takes at least one
character, so the cutting ends.
-/

namespace TagAtlas.Go

/-- What a lexeme is. Keywords, operators and punctuation are marks. -/
inductive LexemeKind where
  | name
  | number
  | string
  | rune
  | mark
  | comment
  | lineEnd
  deriving DecidableEq, Repr

structure Lexeme where
  kind : LexemeKind
  text : String
  extent : Extent
  deriving DecidableEq, Repr

def Lexeme.isMark (l : Lexeme) (text : String) : Bool := l.kind = .mark && l.text = text

def keywords : List String :=
  ["break", "case", "chan", "const", "continue", "default", "defer", "else", "fallthrough", "for",
    "func", "go", "goto", "if", "import", "interface", "map", "package", "range", "return",
    "select", "struct", "switch", "type", "var"]

/-- Operators and punctuation, longer ones first. -/
def operators : List String :=
  ["<<=", ">>=", "&^=", "...", "&&", "||", "<-", "++", "--", "==", "!=", "<=", ">=", ":=", "+=",
    "-=", "*=", "/=", "%=", "&=", "|=", "^=", "<<", ">>", "&^", "+", "-", "*", "/", "%", "&", "|",
    "^", "<", ">", "=", "!", "(", ")", "[", "]", "\x7b", "\x7d", ",", ";", ".", ":", "~"]

def isNameStart (c : Char) : Bool :=
  if c.toNat < 0x80 then c.isAlpha || c = '_'
  else Text.inSpans Text.NameTable.startSpans c.toNat

def isNamePart (c : Char) : Bool :=
  if c.toNat < 0x80 then c.isAlphanum || c = '_'
  else Text.inSpans Text.NameTable.startSpans c.toNat ||
    Text.inSpans Text.NameTable.continueSpans c.toNat

def isHex (c : Char) : Bool := c.isDigit || ('a' ≤ c && c ≤ 'f') || ('A' ≤ c && c ≤ 'F')

/-- Whether a text begins with so many characters that satisfy a test. -/
def leads (count : Nat) (test : Char → Bool) (s : List Char) : Bool :=
  count ≤ s.length && (s.take count).all test

/-- Characters up to and including the end of a comment in `/* */`. -/
def blockExtent : List Char → Option Nat
  | [] => none
  | '*' :: '/' :: _ => some 2
  | _ :: s => (blockExtent s).map (· + 1)

def rawExtent : List Char → Option Nat
  | [] => none
  | c :: s => if c = '\x60' then some 1 else (rawExtent s).map (· + 1)

/-- Whether an escape may stand in a string, given what follows the backslash. -/
def isStringEscape : List Char → Bool
  | 'x' :: s => leads 2 isHex s
  | 'u' :: s => leads 4 isHex s
  | 'U' :: s => leads 8 isHex s
  | _ :: _ => true
  | [] => false

/-- Characters up to and including the closing quote of a string. -/
def stringExtent : List Char → Option Nat
  | [] => none
  | '\x22' :: _ => some 1
  | '\n' :: _ => none
  | '\\' :: c :: s => if isStringEscape (c :: s) then (stringExtent s).map (· + 2) else none
  | _ :: s => (stringExtent s).map (· + 1)

/-- Characters that an escape takes in a rune, given what follows the backslash. -/
def runeEscape : List Char → Option Nat
  | 'x' :: s => if leads 2 isHex s then some 3 else none
  | 'u' :: s => if leads 4 isHex s then some 5 else none
  | 'U' :: s => if leads 8 isHex s then some 9 else none
  | c :: s =>
    if leads 3 (fun d => '0' ≤ d && d ≤ '7') (c :: s) then some 3
    else if "abfnrtv\\'\"".toList.contains c then some 1
    else none
  | [] => none

def runeExtent : List Char → Option Nat
  | [] => none
  | '\\' :: s =>
    (runeEscape s).bind fun n => if (s.drop n).head? = some '\x27' then some (n + 2) else none
  | c :: s => if c ≠ '\x27' && s.head? = some '\x27' then some 2 else none

/-- Characters of the digits of some base that follow a digit; single underscores may stand
between them. -/
def moreDigits (digit : Char → Bool) : List Char → Nat
  | [] => 0
  | [c] => if digit c then 1 else 0
  | c :: d :: s =>
    if digit c then moreDigits digit (d :: s) + 1
    else if c = '_' && digit d then moreDigits digit s + 2
    else 0

def digitRun (digit : Char → Bool) : List Char → Nat
  | [] => 0
  | c :: s => if digit c then moreDigits digit s + 1 else 0

/-- Characters of an exponent with one of the given letters, if there is one. -/
def exponentExtent (letters : List Char) : List Char → Nat
  | [] => 0
  | e :: s =>
    let sign := if s.head? = some '+' || s.head? = some '-' then 1 else 0
    let n := digitRun Char.isDigit (s.drop sign)
    if letters.contains e && n ≠ 0 then 1 + sign + n else 0

def imaginaryExtent (s : List Char) : Nat := if s.head? = some 'i' then 1 else 0

def underscoreExtent (s : List Char) : Nat := if s.head? = some '_' then 1 else 0

/-- Characters of a number with a base mark, after the leading zero and the mark. -/
def basedExtent (digit : Char → Bool) (s : List Char) : Option Nat :=
  let gap := underscoreExtent s
  let n := digitRun digit (s.drop gap)
  if n = 0 then none
  else some (1 + gap + n + imaginaryExtent (s.drop (gap + n)))

/-- Characters of a hexadecimal number after the leading zero and the mark. A fraction needs an
exponent after it. -/
def hexExtent (s : List Char) : Option Nat :=
  let gap := underscoreExtent s
  let digits := digitRun isHex (s.drop gap)
  let whole := gap + digits
  let tail := s.drop whole
  let places := if tail.head? = some '.' then digitRun isHex (tail.drop 1) else 0
  let fraction := if tail.head? = some '.' then 1 + places else 0
  let power := exponentExtent ['p', 'P'] (tail.drop fraction)
  let n := if power = 0 then whole else whole + fraction + power
  if digits = 0 && (gap ≠ 0 || places = 0 || power = 0) then none
  else some (1 + n + imaginaryExtent (s.drop n))

/-- Characters of a decimal number after its first one. A whole number with a leading zero is
octal and holds no digit above seven. -/
def decimalExtent (first : Char) (s : List Char) : Option Nat :=
  let whole := if first = '.' then digitRun Char.isDigit s else moreDigits Char.isDigit s
  let tail := s.drop whole
  let fraction :=
    if first ≠ '.' && tail.head? = some '.' then 1 + digitRun Char.isDigit (tail.drop 1) else 0
  let n := whole + fraction
  let n := n + exponentExtent ['e', 'E'] (s.drop n)
  let all := n + imaginaryExtent (s.drop n)
  if first = '0' && all = whole && (s.take whole).any (fun c => c = '8' || c = '9') then none
  else some all

/-- Characters of a number after its first one. -/
def numberExtent (first : Char) (s : List Char) : Option Nat :=
  if first = '0' then
    match s with
    | 'x' :: r | 'X' :: r => hexExtent r
    | 'b' :: r | 'B' :: r => basedExtent (fun c => c = '0' || c = '1') r
    | 'o' :: r | 'O' :: r => basedExtent (fun c => '0' ≤ c && c ≤ '7') r
    | _ => decimalExtent first s
  else decimalExtent first s

/-- The kind of the lexeme that begins with a character, and how many of the following
characters belong to it. -/
def lexemeAt? (c : Char) (s : List Char) : Option (LexemeKind × Nat) :=
  if c = '/' && s.head? = some '/' then
    some (.comment, (s.takeWhile (· ≠ '\n')).length)
  else if c = '/' && s.head? = some '*' then
    (blockExtent (s.drop 1)).map fun n => (.comment, 1 + n)
  else if c = '\x22' then (stringExtent s).map (.string, ·)
  else if c = '\x60' then (rawExtent s).map (.string, ·)
  else if c = '\x27' then (runeExtent s).map (.rune, ·)
  else if c.isDigit || (c = '.' && s.head?.any Char.isDigit) then
    (numberExtent c s).map (.number, ·)
  else if isNameStart c then
    let n := (s.takeWhile isNamePart).length
    some (if keywords.contains (String.ofList (c :: s.take n)) then .mark else .name, n)
  else (operators.find? fun o => o.toList.isPrefixOf (c :: s)).map fun o => (.mark, o.length - 1)

def isGap (c : Char) : Bool := c = ' ' || ('\t' ≤ c && c ≤ '\r')

/-- The lexemes from a position of a source on, or the position of the first one that is
malformed. -/
def lexFrom (position : Nat) : List Char → Except Nat (List Lexeme)
  | [] => .ok [⟨.lineEnd, "", { start := position, stop := position }⟩]
  | c :: s =>
    if c = '\n' then
      (lexFrom (position + 1) s).map
        (⟨.lineEnd, "\n", { start := position, stop := position + 1 }⟩ :: ·)
    else if isGap c then lexFrom (position + 1) s
    else match lexemeAt? c s with
      | none => .error position
      | some (kind, n) =>
        let text := c :: s.take n
        let extent : Extent := { start := position, stop := position + text.length }
        (lexFrom extent.stop (s.drop n)).map (⟨kind, String.ofList text, extent⟩ :: ·)
  termination_by s => s.length
  decreasing_by all_goals simp only [List.length_cons, List.length_drop]; omega

/-- The lexemes of a source. A byte-order mark in front is no part of it. -/
def lex (source : List Char) : Except Nat (List Lexeme) :=
  match source with
  | '\uFEFF' :: s => lexFrom 1 s
  | s => lexFrom 0 s

end TagAtlas.Go
