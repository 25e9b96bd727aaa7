/-!
# Tokens of a TOML text

A text is cut into marks, words, strings and line ends, one character after another. Bare keys and
all values that are no strings are words; comments are dropped.
-/

namespace TagAtlas.Toml

inductive Token where
  | gap
  | line
  | mark (c : Char)
  | word (text : String)
  /-- A string; one in single quote marks may be a key. -/
  | string (text : String) (isSingle : Bool)
  deriving DecidableEq, Repr

inductive Quotes where
  | basic
  | literal
  | longBasic
  | longLiteral
  deriving DecidableEq, Repr

namespace Quotes

def mark : Quotes → Char
  | .basic | .longBasic => '\x22'
  | .literal | .longLiteral => '\x27'

def isLong : Quotes → Bool
  | .basic | .literal => false
  | .longBasic | .longLiteral => true

def escapes : Quotes → Bool
  | .basic | .longBasic => true
  | .literal | .longLiteral => false

end Quotes

/-- What the next character is part of. Texts are last character first. -/
inductive Mode where
  | plain
  | comment
  | word (text : List Char)
  | string (quotes : Quotes) (text : List Char)
  | escape (quotes : Quotes) (text : List Char)
  | code (quotes : Quotes) (text : List Char) (left value : Nat)
  /-- In the blanks after a backslash at the end of a line. -/
  | folded (quotes : Quotes) (text : List Char)
  | ahead (count : Nat) (next : Option Quotes)
  deriving DecidableEq, Repr

def isWordPart (c : Char) : Bool :=
  c.isAlphanum || c = '_' || c = '-' || c = '+' || c = '.' || c = ':'

def isPrintable (c : Char) : Bool := c = '\t' || (32 ≤ c.toNat && c.toNat ≠ 127)

def atLineEnd : List Char → Bool
  | '\n' :: _ => true
  | '\r' :: '\n' :: _ => true
  | _ => false

/-- Whether a word, last character first, is a date. -/
def isDateWord (text : List Char) : Bool :=
  match text with
  | [d, c, '-', b, a, '-', w, z, y, x] => [a, b, c, d, w, x, y, z].all Char.isDigit
  | _ => false

def atHour : List Char → Bool
  | a :: b :: ':' :: _ => a.isDigit && b.isDigit
  | _ => false

structure Cutting where
  mode : Mode
  tokens : List Token

namespace Cutting

def emit (c : Cutting) (t : Token) : Cutting := ⟨.plain, t :: c.tokens⟩

/-- Opens a string; a line end right after three quote marks does not count. -/
def openString (c : Cutting) (short long : Quotes) (rest : List Char) : Cutting :=
  let q := short.mark
  match rest with
  | a :: b :: more =>
    if a = q && b = q then
      let skipped := match more with
        | '\n' :: _ => 3
        | '\r' :: '\n' :: _ => 4
        | _ => 2
      { c with mode := .ahead skipped (some long) }
    else { c with mode := .string short [] }
  | _ => { c with mode := .string short [] }

def plainStep (c : Cutting) (x : Char) (rest : List Char) : Option Cutting :=
  if x = ' ' || x = '\t' then some (c.emit .gap)
  else if x = '\n' then some (c.emit .line)
  else if x = '\r' then if rest.head? = some '\n' then some c else none
  else if x = '#' then some { c with mode := .comment }
  else if x = '\x22' then some (c.openString .basic .longBasic rest)
  else if x = '\x27' then some (c.openString .literal .longLiteral rest)
  else if x = '[' || x = ']' || x = '\x7b' || x = '\x7d' || x = ',' || x = '=' then
    some (c.emit (.mark x))
  else if isWordPart x then some { c with mode := .word [x] }
  else none

/-- Reads a quote mark in a string. Of more than three in a row, up to two belong to the text. -/
def quoteStep (c : Cutting) (quotes : Quotes) (text rest : List Char) : Cutting :=
  let q := quotes.mark
  let closed (isSingle : Bool) : Token := .string (String.ofList text.reverse) isSingle
  if !quotes.isLong then c.emit (closed true)
  else match rest with
    | a :: b :: more =>
      let isFull := (text.takeWhile (· = q)).length = 2
      if a ≠ q || b ≠ q then { c with mode := .string quotes (q :: text) }
      else if more.head? = some q && !isFull then { c with mode := .string quotes (q :: text) }
      else ⟨.ahead 2 none, closed false :: c.tokens⟩
    | _ => { c with mode := .string quotes (q :: text) }

def stringStep (c : Cutting) (quotes : Quotes) (text : List Char) (x : Char) (rest : List Char) :
    Option Cutting :=
  if x = quotes.mark then some (c.quoteStep quotes text rest)
  else if x = '\\' && quotes.escapes then some { c with mode := .escape quotes text }
  else if isPrintable x || (quotes.isLong && (x = '\n' || (x = '\r' && rest.head? = some '\n'))) then
    some { c with mode := .string quotes (x :: text) }
  else none

def escapeStep (c : Cutting) (quotes : Quotes) (text : List Char) (x : Char) (rest : List Char) :
    Option Cutting :=
  let one (y : Char) : Option Cutting := some { c with mode := .string quotes (y :: text) }
  let code (digits : Nat) : Option Cutting := some { c with mode := .code quotes text digits 0 }
  match x with
  | 'b' => one '\x08'
  | 't' => one '\t'
  | 'n' => one '\n'
  | 'f' => one '\x0c'
  | 'r' => one '\r'
  | 'e' => one '\x1b'
  | '\x22' => one '\x22'
  | '\\' => one '\\'
  | 'x' => code 2
  | 'u' => code 4
  | 'U' => code 8
  | x =>
    let after := (x :: rest).dropWhile fun y => y = ' ' || y = '\t'
    if quotes.isLong && atLineEnd after then some { c with mode := .folded quotes text } else none

def hexDigit? (x : Char) : Option Nat :=
  if x.isDigit then some (x.toNat - '0'.toNat)
  else if 'a' ≤ x && x ≤ 'f' then some (x.toNat - 'a'.toNat + 10)
  else if 'A' ≤ x && x ≤ 'F' then some (x.toNat - 'A'.toNat + 10)
  else none

def codeStep (c : Cutting) (quotes : Quotes) (text : List Char) (left value : Nat) (x : Char) :
    Option Cutting :=
  (hexDigit? x).bind fun d =>
    let value := value * 16 + d
    if 1 < left then some { c with mode := .code quotes text (left - 1) value }
    else if value.isValidChar then some { c with mode := .string quotes (Char.ofNat value :: text) }
    else none

def step (c : Cutting) (x : Char) (rest : List Char) : Option Cutting :=
  match c.mode with
  | .plain => c.plainStep x rest
  | .comment =>
    if x = '\n' then some (c.emit .line)
    else if isPrintable x || (x = '\r' && rest.head? = some '\n') then some c
    else none
  | .word text =>
    if isWordPart x then some { c with mode := .word (x :: text) }
    else if x = ' ' && isDateWord text && atHour rest then
      some { c with mode := .word ('T' :: text) }
    else (c.emit (.word (String.ofList text.reverse))).plainStep x rest
  | .string quotes text => c.stringStep quotes text x rest
  | .escape quotes text => c.escapeStep quotes text x rest
  | .code quotes text left value => c.codeStep quotes text left value x
  | .folded quotes text =>
    if x = ' ' || x = '\t' || x = '\n' || x = '\r' then some c else c.stringStep quotes text x rest
  | .ahead count next =>
    if 1 < count then some { c with mode := .ahead (count - 1) next }
    else some { c with mode := (next.map fun q => Mode.string q []).getD .plain }

/-- The tokens, when the text is at its end. -/
def finish (c : Cutting) : Option (List Token) :=
  match c.mode with
  | .plain | .comment => some c.tokens.reverse
  | .word text => some (Token.word (String.ofList text.reverse) :: c.tokens).reverse
  | _ => none

def cut (c : Cutting) : List Char → Option (List Token)
  | [] => c.finish
  | x :: rest => (c.step x rest).bind fun c => c.cut rest

end Cutting

/-- The tokens of a text, without the mark of byte order at its front. -/
def tokens? (text : String) : Option (List Token) :=
  let s := text.toList
  Cutting.cut ⟨.plain, []⟩ (if s.head?.any (·.toNat = 0xFEFF) then s.drop 1 else s)

end TagAtlas.Toml
