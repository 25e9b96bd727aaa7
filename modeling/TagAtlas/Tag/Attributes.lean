import TagAtlas.Dict
import TagAtlas.Text.Blank
import TagAtlas.Text.Search

/-!
# Attribute lists

Attributes are separated by spaces, tabs and commas outside quotes. Each is `key=value` or a bare
key, which means `true`.
-/

namespace TagAtlas.Attributes

def isSeparator (c : Char) : Bool := c = ' ' || c = '\t' || c = ','

/-- What opens a quoted run; the same character closes it. -/
def isQuote (c : Char) : Bool := c = '\x22' || c = '\x27'

def consPiece (piece : List Char) (pieces : List (List Char)) : List (List Char) :=
  if piece.isEmpty then pieces else piece :: pieces

/-- Cuts at separators outside quotes. `quote` is the open quote, `piece` what has been read of
the current piece. Quotes stay in the pieces, and empty pieces are dropped. -/
def pieces (quote : Option Char) (piece : List Char) : List Char → List (List Char)
  | [] => consPiece piece []
  | c :: rest =>
    match quote with
    | some q => pieces (if c = q then none else some q) (piece ++ [c]) rest
    | none =>
      if isSeparator c then consPiece piece (pieces none [] rest)
      else pieces (if isQuote c then some c else none) (piece ++ [c]) rest

/-- The text between a pair of equal quotes around a value, if there is such a pair. -/
def quoteBody? : List Char → Option (List Char)
  | [] => none
  | q :: rest =>
    if isQuote q then
      match rest.getLast? with
      | some last => if last = q then some rest.dropLast else none
      | none => none
    else none

/-- A value without its quotes; a quote without partner loses its opening mark only. -/
def unquote (value : List Char) : List Char :=
  match quoteBody? value with
  | some body => body
  | none => value.dropWhile isQuote

def binding (piece : List Char) : List Char × List Char :=
  match Text.cut? (· = '=') piece with
  | some (key, value) => (Text.trim key, unquote (Text.trim value))
  | none => (Text.trim piece, "true".toList)

/-- The attributes that a text lists. Without a key there is no attribute, and the last of equal
keys wins. -/
def read (s : List Char) : Dict String :=
  Dict.ofList <| ((pieces none [] s).map binding).filterMap fun b =>
    if b.1.isEmpty then none else some (String.ofList b.1, String.ofList b.2)

end TagAtlas.Attributes
